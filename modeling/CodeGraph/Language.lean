import CodeGraph.Text.Path

/-! # Source languages

The languages that are indexed and the dialects in which their files are parsed. The dialect of a
file follows from the extension of its path, whatever the case of its letters. -/

namespace CodeGraph

/-- A family of source languages. -/
inductive Language where
  | javaScript
  | typeScript
  | python
  deriving BEq, DecidableEq, Hashable, Repr, Inhabited

/-- The form of a language in which a file is parsed. -/
inductive Dialect where
  | javaScript
  | typeScript
  /-- TypeScript with markup. -/
  | tsx
  | python
  deriving BEq, DecidableEq, Hashable, Repr, Inhabited

namespace Language

/-- The name of a language. -/
def name : Language → String
  | javaScript => "javascript"
  | typeScript => "typescript"
  | python => "python"

/-- The language of a name. -/
def ofName? : String → Option Language
  | "javascript" => some javaScript
  | "typescript" => some typeScript
  | "python" => some python
  | _ => none

/-- Extensions of the files of a language. -/
def extensions : Language → List String
  | javaScript => ["js", "jsx", "mjs", "cjs"]
  | typeScript => ["ts", "tsx", "mts", "cts"]
  | python => ["py"]

end Language

namespace Dialect

/-- The name of a dialect. -/
def name : Dialect → String
  | javaScript => "javascript"
  | typeScript => "typescript"
  | tsx => "tsx"
  | python => "python"

/-- The dialect of a name. -/
def ofName? : String → Option Dialect
  | "javascript" => some javaScript
  | "typescript" => some typeScript
  | "tsx" => some tsx
  | "python" => some python
  | _ => none

/-- The language of a dialect. -/
def language : Dialect → Language
  | javaScript => .javaScript
  | typeScript | tsx => .typeScript
  | python => .python

/-- The dialect of files with an extension. -/
def ofExtension? (ext : String) : Option Dialect :=
  match ext.map Char.toLower with
  | "js" | "jsx" | "mjs" | "cjs" => some javaScript
  | "ts" | "mts" | "cts" => some typeScript
  | "tsx" => some tsx
  | "py" => some python
  | _ => none

/-- The dialect of a path. -/
def ofPath? (path : String) : Option Dialect := (Path.extension? path).bind ofExtension?

end Dialect

namespace Language

/-- The language of files with an extension. -/
def ofExtension? (ext : String) : Option Language := (Dialect.ofExtension? ext).map Dialect.language

/-- The language of a path. -/
def ofPath? (path : String) : Option Language := (Path.extension? path).bind ofExtension?

end Language

/-- Every extension that is indexed, in the order in which they are tried. -/
def sourceExtensions : List String := ["js", "jsx", "mjs", "cjs", "ts", "tsx", "mts", "cts", "py"]

end CodeGraph
