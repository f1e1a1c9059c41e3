import CodeGraph.Extraction.JavaScript
import CodeGraph.Extraction.Python
import CodeGraph.Facts
import CodeGraph.Scope

/-! # Extraction of facts

One walk over the named nodes of a tree, parents before children and children in order. Functions
open a scope, named or not; imports count only outside every function. -/

namespace CodeGraph.Extraction

/-- What a node is, in its language. -/
def classify (language : Language) (source : String) (place : Option Place) (t : Tree) : Construct :=
  match language with
  | .javaScript | .typeScript => JavaScript.classify source place t
  | .python => Python.classify source place t

/-- The facts that a construct itself gives rise to. -/
def ownFacts (path : String) (scope : Scope) (line : Nat) : Construct → List Fact
  | .function (some name) | .signature name => [.function ⟨name, path, line⟩]
  | .function none => []
  | .class (some name) bases => [.class ⟨name, path, bases, line⟩]
  | .class none _ => []
  | .imports specifiers =>
    if scope.isModule then specifiers.map fun s => .importing ⟨s, line⟩ else []
  | .call callee loaded =>
    let calls : List Fact := match callee.name? with
      | some name => [.call ⟨scope.caller, name, line⟩]
      | none => []
    let imports : List Fact := match loaded with
      | some s => if scope.isModule then [.importing ⟨s, line⟩] else []
      | none => []
    calls ++ imports
  | .other => []

mutual
/-- Visits a node and all below it: the facts found, and the scope that is left. A function is
entered before what is inside it is visited, and left again afterwards. -/
def visit (language : Language) (source path : String) (place : Option Place) :
    Tree → Scope → List Fact × Scope
  | ⟨kind, named, field, isError, isMissing, hasError, start, stop, children⟩, scope =>
    let t : Tree := ⟨kind, named, field, isError, isMissing, hasError, start, stop, children⟩
    let construct := classify language source place t
    let own := ownFacts path scope t.line construct
    let (below, scope) := match construct with
      | .function name =>
        scope.within name fun inner => visitAll language source path t 0 children inner
      | _ => visitAll language source path t 0 children scope
    (own ++ below, scope)

/-- Visits the named nodes among the children of `parent` from number `index` on. -/
def visitAll (language : Language) (source path : String) (parent : Tree) (index : Nat) :
    List Tree → Scope → List Fact × Scope
  | [], scope => ([], scope)
  | t :: ts, scope =>
    let (first, scope) :=
      if t.named then visit language source path (some ⟨parent, index⟩) t scope else ([], scope)
    let (rest, scope) := visitAll language source path parent (index + 1) ts scope
    (first ++ rest, scope)
end

/-- The facts of a parsed file; `path` is the path that they record. -/
def fileFacts (language : Language) (source path : String) (root : Tree) : FileFacts :=
  FileFacts.ofFacts path language (visit language source path none root .module).1

end CodeGraph.Extraction
