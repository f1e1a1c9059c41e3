import CodeGraph.Parsing.Parser
import CodeGraph.Tree.Basic

/-! # The finished tree

From the tree of all symbols to the tree that is shown. A node without a name of its own is left out
and its children take its place; they keep the role it had, unless they have one themselves. -/

namespace CodeGraph.Parsing

open CodeGraph.Grammar

mutual
/-- The nodes shown for a tree, given its name and its role in the production above it. -/
def shown (l : Tables) (rename : Option (String × Bool)) (field : Option String) :
    Subtree → List Tree
  | ⟨symbol, _, start, stop, extra, missing, _, item, children, cost, _, _, _, _, _⟩ =>
    let own := Subtree.info l symbol
    let info : SymbolInfo := match rename with
      | some (name, named) => ⟨name, true, named⟩
      | none => own
    let made := match item with
      | some i => l.item i
      | none => default
    let field := if extra then none else field
    if info.visible then
      [{ kind := info.name, named := info.named, field
         isError := symbol == errorSymbol, isMissing := missing, hasError := cost > 0
         start, stop
         children := shownAll l made.names.toList made.fields.toList none children }]
    else shownAll l made.names.toList made.fields.toList field children

/-- The nodes shown for the children of one node. Extras take no part in the production. -/
def shownAll (l : Tables) (names : List (Option (String × Bool))) (fields : List (Option String))
    (outer : Option String) : List Subtree → List Tree
  | [] => []
  | c :: cs =>
    if c.extra then shown l none none c ++ shownAll l names fields outer cs
    else
      let inner := fields.head?.join
      shown l names.head?.join (if inner.isSome then inner else outer) c
        ++ shownAll l names.tail fields.tail outer cs
end

/-- The syntax tree of a text. -/
def parse (l : Tables) (text : String) : Tree :=
  match shown l none none (Parser.parse l text) with
  | t :: _ => t
  | [] => { kind := "ERROR", named := true, isError := true, hasError := true, start := {}, stop := {} }

end CodeGraph.Parsing
