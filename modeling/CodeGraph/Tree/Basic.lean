import CodeGraph.Text.Position

/-! # Syntax trees

The tree of a source text as the rest of the library sees it. Named nodes stand for constructs of
the language, the others for fixed words and signs. A stretch of text that fits nothing is a node of
its own kind, and a token that had to be supplied is marked as missing. -/

namespace CodeGraph

/-- Something that is wrong at a place in a text. Lines and columns are counted from one. -/
structure Problem where
  line : Nat
  column : Nat
  message : String
  deriving BEq, DecidableEq, Repr, Inhabited

/-- What a search for problems has found so far. -/
structure Findings where
  count : Nat := 0
  /-- The problem that was found first. -/
  first : Option Problem := none
  deriving BEq, DecidableEq, Repr, Inhabited

/-- Adds a problem. -/
def Findings.add (f : Findings) (p : Problem) : Findings where
  count := f.count + 1
  first := if f.first.isNone then some p else f.first

/-- A node of a syntax tree. -/
structure Tree where
  kind : String
  named : Bool
  /-- The role of the node in its parent. -/
  field : Option String := none
  /-- Text that fits nothing. -/
  isError : Bool := false
  /-- A token that is not in the text. -/
  isMissing : Bool := false
  /-- Whether something is wrong with the node or below it. -/
  hasError : Bool := false
  start : Position
  stop : Position
  children : List Tree := []
  deriving Inhabited, Repr

namespace Tree

/-- What holds of a tree as soon as it holds of its children holds of all trees. -/
theorem induction {motive : Tree → Prop} (h : ∀ t : Tree, (∀ c ∈ t.children, motive c) → motive t)
    (t : Tree) : motive t :=
  @Tree.rec motive (fun ts => ∀ c ∈ ts, motive c)
    (fun _ _ _ _ _ _ _ _ _ hchildren => h _ hchildren) (List.forall_mem_nil motive)
    (fun _ _ hhead htail => List.forall_mem_cons.2 ⟨hhead, htail⟩) t

/-- The text of a node. -/
def text (source : String) (t : Tree) : String := Position.slice source t.start.byte t.stop.byte

/-- Line of the first character, counted from one. -/
def line (t : Tree) : Nat := t.start.row + 1

/-- The named children, in order. -/
def namedChildren (t : Tree) : List Tree := t.children.filter (·.named)

/-- The children with a role, in order. -/
def childrenByField (t : Tree) (name : String) : List Tree := t.children.filter (·.field == some name)

/-- The first child with a role. -/
def childByField (t : Tree) (name : String) : Option Tree := t.children.find? (·.field == some name)

/-- Whether a node is wrong in itself. -/
def isWrong (t : Tree) : Bool := t.isError || t.isMissing

/-- What is wrong at a node, in words. -/
def problemMessage (t : Tree) : String :=
  if t.isMissing then "missing `" ++ t.kind ++ "`" else "unexpected syntax"

/-- What is wrong at a node. -/
def problem (t : Tree) : Problem where
  line := t.start.row + 1
  column := t.start.column + 1
  message := t.problemMessage

mutual
/-- Number of nodes. -/
def size : Tree → Nat
  | ⟨_, _, _, _, _, _, _, _, children⟩ => sizeOfAll children + 1

/-- Number of nodes of all trees of a list. -/
def sizeOfAll : List Tree → Nat
  | [] => 0
  | t :: ts => size t + sizeOfAll ts
end

/-- The size of a tree is that of its children, and one for the root. -/
theorem size_eq (t : Tree) : t.size = sizeOfAll t.children + 1 := by
  cases t
  rw [size]

/-- Puts trees on a stack, the last one first, so that the first one comes to lie on top. -/
def stackUp (ts stack : List Tree) : List Tree := ts.reverse.foldl (fun stack t => t :: stack) stack

/-- `stackUp` puts trees in front of the stack in their order. -/
theorem stackUp_eq (ts stack : List Tree) : stackUp ts stack = ts ++ stack := by
  rw [stackUp, List.foldl_reverse]
  exact List.foldr_cons_eq_append' ..

/-- The sizes of two lists of trees add up. -/
theorem sizeOfAll_append (ts us : List Tree) :
    sizeOfAll (ts ++ us) = sizeOfAll ts + sizeOfAll us := by
  induction ts with
  | nil => rw [List.nil_append, sizeOfAll, Nat.zero_add]
  | cons t ts ih => rw [List.cons_append, sizeOfAll, ih, sizeOfAll, Nat.add_assoc]

/-- What has been found once a node has been looked at. -/
def note (found : Findings) (t : Tree) : Findings :=
  if t.isWrong then found.add t.problem else found

/-- Takes the trees from a stack one after the other, and puts their children in their place. Trees
that are not marked as having something wrong are left aside. -/
def searchFrom (found : Findings) (stack : List Tree) : Findings :=
  match stack with
  | [] => found
  | t :: stack =>
    if t.hasError then searchFrom (note found t) (stackUp t.children stack)
    else searchFrom found stack
termination_by sizeOfAll stack
decreasing_by
  · rw [stackUp_eq, sizeOfAll_append, sizeOfAll, size_eq]
    omega
  · rw [sizeOfAll, size_eq]
    omega

/-- What is wrong in a tree. -/
def search (t : Tree) : Findings := searchFrom {} [t]

end Tree

end CodeGraph
