import CodeGraph.Scope

/-! # Scope programs

Programs that enter and leave functions, with what can be seen of the scope after each step. -/

namespace CodeGraph

/-- A step of a program. -/
inductive ScopeStep where
  | push (name : Option String)
  | pop
  /-- Runs steps inside a function. -/
  | within (name : Option String) (body : List ScopeStep)
  deriving Repr, Inhabited

/-- What a step answers. -/
inductive ScopeResult where
  | pushed
  | popped (frame : Option Frame)
  | left
  deriving BEq, DecidableEq, Repr, Inhabited

/-- What is seen: inside a function that has just been entered, or after a step. -/
inductive ScopeView where
  | entered (scope : Scope)
  | after (result : ScopeResult) (scope : Scope)
  deriving BEq, DecidableEq, Repr, Inhabited

namespace ScopeStep

mutual
/-- What is seen during a step, and the scope after it. -/
def run (s : Scope) : ScopeStep → List ScopeView × Scope
  | push name => let s := s.push name; ([.after .pushed s], s)
  | pop => let (frame, s) := s.pop; ([.after (.popped frame) s], s)
  | within name body =>
    let (views, s) := s.within name fun inner =>
      let (views, inner') := runAll inner body
      (.entered inner :: views, inner')
    (views ++ [.after .left s], s)

/-- What is seen during steps one after the other, and the scope after them. -/
def runAll (s : Scope) : List ScopeStep → List ScopeView × Scope
  | [] => ([], s)
  | step :: steps =>
    let (views, s) := run s step
    let (more, s) := runAll s steps
    (views ++ more, s)
end

end ScopeStep

end CodeGraph
