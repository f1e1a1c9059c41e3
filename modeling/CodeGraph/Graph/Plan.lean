import CodeGraph.Facts
import CodeGraph.Graph.Batch

/-! # Planning

The upserts that record the facts of a file: the file itself, its classes with what they inherit
from, its functions, the files that it imports, and its calls. -/

namespace CodeGraph.Plan

/-- The upserts of a class. -/
def ofClass (file : String) (c : ClassFact) : List Upsert :=
  .definition .classType c.name file :: c.bases.map fun base => .inherits c.name file base

/-- The upserts of a call. A call outside every named function has no caller. -/
def ofCall (file : String) (c : CallFact) : List Upsert :=
  match c.caller with
  | some caller => [.call caller c.callee file, .use c.callee file]
  | none => [.use c.callee file]

/-- The upserts of a file, in order and with repetitions. -/
def upserts (facts : FileFacts) (resolved : List String) : List Upsert :=
  .file facts.path facts.name
    :: facts.classes.flatMap (ofClass facts.path)
    ++ facts.functions.map (fun f => .definition .function f.name facts.path)
    ++ resolved.map (fun target => .imports facts.path target)
    ++ facts.calls.flatMap (ofCall facts.path)

/-- The batch of a file, given the files that its imports were resolved to. -/
def batch (facts : FileFacts) (resolved : List String) : Batch :=
  (Batch.empty facts.path).pushAll (upserts facts resolved)

end CodeGraph.Plan
