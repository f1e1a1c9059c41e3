/-! # Scopes

The functions around a place in the text, innermost first, named or not. A call belongs to the
innermost one that has a name. -/

namespace CodeGraph

/-- A function around a place. -/
structure Frame where
  name : Option String
  deriving BEq, DecidableEq, Repr, Inhabited

/-- The functions around a place, innermost first. -/
structure Scope where
  frames : List Frame := []
  deriving BEq, DecidableEq, Repr, Inhabited

namespace Scope

/-- Outside every function. -/
def module : Scope := {}

/-- Enters a function. -/
def push (s : Scope) (name : Option String) : Scope := ⟨⟨name⟩ :: s.frames⟩

/-- Leaves the innermost function, if there is one. -/
def pop (s : Scope) : Option Frame × Scope :=
  match s.frames with
  | f :: fs => (some f, ⟨fs⟩)
  | [] => (none, s)

/-- Number of functions around. -/
def depth (s : Scope) : Nat := s.frames.length

/-- Whether no function is around. -/
def isModule (s : Scope) : Bool := s.frames.isEmpty

/-- The name of the innermost named function. -/
def caller (s : Scope) : Option String := s.frames.findSome? (·.name)

/-- Runs an action inside a function and leaves the function again. -/
def within {α : Type} (s : Scope) (name : Option String) (f : Scope → α × Scope) : α × Scope :=
  let (a, inner) := f (s.push name)
  (a, inner.pop.2)

end Scope

end CodeGraph
