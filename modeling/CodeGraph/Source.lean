import CodeGraph.Extraction.Walk
import CodeGraph.Languages.Tables
import CodeGraph.Log
import CodeGraph.Text.Quoted

/-! # Source files

From the text of a file to its facts. A text with syntax errors is refused with the place of the
first of them, unless the reader is told to tolerate them; then the facts are those of the parts
that could be read. -/

namespace CodeGraph

/-- Why a source file gives no facts. -/
inductive SourceError where
  /-- The text breaks the rules of its language at a place. -/
  | malformed (path : String) (line column : Nat) (problem : String)
  /-- No language is known for the path. -/
  | unsupported (path : String) (extension : Option String)
  /-- The rules of the language cannot be used. -/
  | grammar (problem : String)
  deriving BEq, DecidableEq, Repr, Inhabited

namespace SourceError

/-- The error in words. -/
def message : SourceError → String
  | malformed path line column problem =>
    s!"Parse error in {path} at {line}:{column}: " ++ problem
  | unsupported path extension =>
    s!"Unsupported language for {path}: " ++ Text.quotedOption extension
  | grammar problem => "Grammar error: " ++ problem

/-- Whether the text itself is at fault. -/
def isSyntax : SourceError → Bool
  | malformed .. => true
  | _ => false

end SourceError

/-- A source file that has been parsed. -/
structure ParsedSource where
  /-- The path with slashes between its parts. -/
  path : String
  dialect : Dialect
  text : String
  tree : Tree
  /-- Number of syntax errors that were tolerated. -/
  errorCount : Nat
  deriving Inhabited

namespace ParsedSource

/-- The language of a source. -/
def language (p : ParsedSource) : Language := p.dialect.language

/-- The facts of a source; `path` is the path that they record. -/
def facts (p : ParsedSource) (path : String) : Logged FileFacts := do
  let facts := Extraction.fileFacts p.language p.text path p.tree
  Logged.debug (path ++ ": " ++ facts.counts.display)
  return facts

end ParsedSource

namespace Source

/-- The refusal of a text, for its first problem. -/
def refusal (path : String) : Option Problem → SourceError
  | some p => .malformed path p.line p.column p.message
  | none => .malformed path 0 0 "syntax error"

/-- What becomes of a text that has been read as a tree. -/
def ofTree (tolerant : Bool) (dialect : Dialect) (path text : String) (tree : Tree) :
    Logged (Except SourceError ParsedSource) := do
  let path := Path.slashed path
  if tree.hasError then
    let found := tree.search
    if tolerant then
      Logged.warn s!"{path}: {found.count} syntax error(s), extracting from partial tree"
      return .ok { path, dialect, text, tree, errorCount := found.count }
    else return .error (refusal path found.first)
  else return .ok { path, dialect, text, tree, errorCount := 0 }

/-- Parses a text in a dialect. -/
def parseAs (tolerant : Bool) (dialect : Dialect) (path text : String) :
    Logged (Except SourceError ParsedSource) :=
  ofTree tolerant dialect path text (dialect.parse text)

/-- The dialect of a path, or the reason why there is none. -/
def dialectOf (path : String) : Except SourceError Dialect :=
  match Dialect.ofPath? path with
  | some d => .ok d
  | none => .error (.unsupported path (Path.extension? path))

/-- Parses a text in the dialect of its path. -/
def parse (tolerant : Bool) (path text : String) : Logged (Except SourceError ParsedSource) :=
  match dialectOf path with
  | .ok d => parseAs tolerant d path text
  | .error e => return .error e

/-- The facts of a text; `path` gives the dialect and is the path that the facts record. -/
def extract (tolerant : Bool) (path text : String) : Logged (Except SourceError FileFacts) := do
  match ← parse tolerant path text with
  | .ok p => return .ok (← p.facts path)
  | .error e => return .error e

end Source

end CodeGraph
