import CodeGraph.Graph.Upsert
import Std.Data.HashSet

/-! # Batches

The upserts of one source file, in order. A batch remembers the upserts that were put into it and
takes none of them twice. -/

namespace CodeGraph

/-- The upserts of a file. -/
structure Batch where
  file : String
  ops : Array Upsert := #[]
  /-- The upserts that the batch remembers. -/
  seen : Std.HashSet Upsert := {}

instance : Inhabited Batch := ⟨{ file := "" }⟩

namespace Batch

/-- A batch without upserts. -/
def empty (file : String) : Batch := { file }

/-- Puts an upsert at the end, unless the batch remembers it. The result says whether it did. -/
def push (b : Batch) (op : Upsert) : Bool × Batch :=
  if b.seen.contains op then (false, b)
  else (true, { b with ops := b.ops.push op, seen := b.seen.insert op })

/-- Puts upserts at the end one after the other. -/
def pushAll (b : Batch) (ops : List Upsert) : Batch := ops.foldl (fun b op => (b.push op).2) b

/-- Number of upserts. -/
def size (b : Batch) : Nat := b.ops.size

/-- Whether there are no upserts. -/
def isEmpty (b : Batch) : Bool := b.ops.isEmpty

/-- Number of upserts with a kind of link. -/
def count (b : Batch) (relation : Relation) : Nat :=
  (b.ops.filter fun op => op.relation? == some relation).size

/-- Two batches are alike if they hold the same upserts in the same order for the same file and
remember the same ones. -/
instance : BEq Batch where
  beq a b := a.file == b.file && a.ops == b.ops && a.seen.size == b.seen.size
    && a.seen.all fun op => b.seen.contains op

end Batch

end CodeGraph
