import CodeGraph.Facts
import CodeGraph.Files.Tree
import CodeGraph.Graph.Backend
import CodeGraph.Source
import CodeGraph.Text.Seconds

/-! # Reports and summaries

What a run has to say of each file, and of all files together. -/

namespace CodeGraph

/-- Where a file failed. -/
inductive FileStage where
  | reading
  | parsing
  | writing
  deriving BEq, DecidableEq, Repr, Inhabited

/-- The name of a stage. -/
def FileStage.name : FileStage → String
  | reading => "reading"
  | parsing => "parsing"
  | writing => "writing"

/-- Why a file could not be ingested. -/
inductive IngestError where
  | read (path problem : String)
  | parse (error : SourceError)
  | write (path : String) (error : GraphError)
  deriving BEq, DecidableEq, Repr, Inhabited

namespace IngestError

/-- The error in words. -/
def message : IngestError → String
  | read path problem => "cannot read " ++ path ++ ": " ++ problem
  | parse error => error.message
  | write path error => "cannot write " ++ path ++ ": " ++ error.message

/-- Where the file failed. -/
def stage : IngestError → FileStage
  | read _ _ => .reading
  | parse _ => .parsing
  | write _ _ => .writing

end IngestError

/-- What became of a file. -/
inductive FileOutcome where
  | ingested (counts : FactCounts) (resolvedImports : Nat)
  | failed (stage : FileStage) (problem : String)
  deriving BEq, DecidableEq, Repr, Inhabited

/-- The report of a file. -/
structure FileReport where
  path : String
  outcome : FileOutcome
  deriving BEq, DecidableEq, Repr, Inhabited

namespace FileReport

/-- The report of a file that failed. -/
def ofError (path : String) (e : IngestError) : FileReport := ⟨path, .failed e.stage e.message⟩

/-- Whether the file failed. -/
def isFailed (r : FileReport) : Bool :=
  match r.outcome with
  | .failed _ _ => true
  | .ingested _ _ => false

/-- The numbers of facts of an ingested file. -/
def counts? (r : FileReport) : Option FactCounts :=
  match r.outcome with
  | .ingested counts _ => some counts
  | .failed _ _ => none

end FileReport

/-- Numbers of facts together. -/
def FactCounts.add (a b : FactCounts) : FactCounts :=
  ⟨a.functions + b.functions, a.classes + b.classes, a.imports + b.imports, a.calls + b.calls⟩

/-- The outcome of a run. -/
structure RunSummary where
  processed : Nat := 0
  failed : Nat := 0
  /-- The reports, in the order of the files. -/
  reports : List FileReport := []
  /-- The totals of the graph after the run. -/
  graph : Option GraphCounts := none
  /-- How long the run took, in nanoseconds. -/
  elapsed : Nat := 0
  /-- Whether the run was ended between two files. -/
  stopped : Bool := false
  deriving BEq, DecidableEq, Repr, Inhabited

namespace RunSummary

/-- Adds the report of a file. -/
def record (s : RunSummary) (r : FileReport) : RunSummary :=
  if r.isFailed then { s with failed := s.failed + 1, reports := s.reports ++ [r] }
  else { s with processed := s.processed + 1, reports := s.reports ++ [r] }

/-- The facts of all ingested files together. -/
def factTotals (s : RunSummary) : FactCounts :=
  (s.reports.filterMap FileReport.counts?).foldl FactCounts.add {}

/-- The reports of files that failed. -/
def failures (s : RunSummary) : List FileReport := s.reports.filter FileReport.isFailed

/-- The first report of a path. -/
def report? (s : RunSummary) (path : String) : Option FileReport :=
  s.reports.find? (·.path == path)

/-- How long the run took, in whole milliseconds of 64 bits. -/
def elapsedMillis (s : RunSummary) : Nat := s.elapsed / 1000000 % Nat.pow 2 64

/-- The outcome in words. -/
def display (s : RunSummary) : String :=
  s!"Processed {s.processed} files ({s.failed} failed) in {Text.secondsText s.elapsed}s: "
    ++ s.factTotals.display
    ++ (if s.stopped then " [stopped early]" else "")
    ++ match s.graph with
      | some g => "\nSummary: " ++ g.display
      | none => ""

end RunSummary

end CodeGraph
