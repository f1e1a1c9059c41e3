import CodeGraph.Graph.Plan
import CodeGraph.Graph.Snapshot
import CodeGraph.Log

/-! # Graph backends

What is asked of anything that holds a graph: whether it can be reached, that it take a batch as a
whole, and its totals. The state of a backend is whatever a request can change. -/

namespace CodeGraph

/-- The step at which a request over HTTP fails. -/
inductive HttpStep where
  /-- The request cannot be made. -/
  | building
  /-- It is sent, and no answer comes back. -/
  | sending
  /-- An answer comes back that cannot be read. -/
  | decoding
  deriving BEq, DecidableEq, Repr, Inhabited

/-- Why a request over HTTP fails. -/
structure HttpError where
  step : HttpStep
  problem : String
  /-- Whether there was no connection. -/
  noConnection : Bool := false
  /-- Whether it took too long. -/
  timedOut : Bool := false
  deriving BEq, DecidableEq, Repr, Inhabited

/-- Why a backend refuses a request. -/
inductive GraphError where
  | connection (problem : String)
  | write (problem : String)
  /-- The database refuses a statement. -/
  | query (code problem : String)
  /-- A request or its answer is lost or unreadable. -/
  | http (error : HttpError)
  | json (problem : String)
  | file (problem : String)
  | invalidConfig (problem : String)
  deriving BEq, DecidableEq, Repr, Inhabited

namespace GraphError

/-- The error in words. -/
def message : GraphError → String
  | connection problem => "Connection error: " ++ problem
  | write problem => "Write error: " ++ problem
  | query code problem => "Query error " ++ code ++ ": " ++ problem
  | http error => "HTTP error: " ++ error.problem
  | json problem => "JSON error: " ++ problem
  | file problem => "IO error: " ++ problem
  | invalidConfig problem => "Invalid store configuration: " ++ problem

/-- Whether to try again may help: there was no connection, it took too long, or the request got
lost on its way. -/
def isTransient : GraphError → Bool
  | http error => error.noConnection || error.timedOut || error.step == .sending
  | _ => false

end GraphError

/-- The answer to a request, and the state after it. -/
abbrev Answer (σ α : Type) := Except GraphError α × σ

/-- Something that holds a graph. -/
structure Backend (σ : Type) where
  name : String
  /-- Whether it can be reached. -/
  verify : σ → Logged (Answer σ Unit)
  /-- Takes a batch. -/
  apply : Batch → σ → Logged (Answer σ Unit)
  /-- The totals of its graph. -/
  counts : σ → Logged (Answer σ GraphCounts)

/-- The graph in memory, which can always be reached and takes every batch. -/
def Backend.memory : Backend Store where
  name := "memory"
  verify s := return (.ok (), s)
  apply b s := return (.ok (), s.apply b)
  counts s := return (.ok s.counts, s)

/-- Writes the facts of a file; the result is the number of upserts. -/
def Backend.write {σ : Type} (backend : Backend σ) (facts : FileFacts) (resolved : List String)
    (s : σ) : Logged (Answer σ Nat) := do
  let batch := Plan.batch facts resolved
  Logged.debug s!"Writing {batch.size} upserts for {batch.file} to {backend.name}"
  match ← backend.apply batch s with
  | (.ok (), s) => return (.ok batch.size, s)
  | (.error e, s) => return (.error e, s)

end CodeGraph
