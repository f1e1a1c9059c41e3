import CodeGraph.Facts.Json
import CodeGraph.Graph.Json
import CodeGraph.Run.Summary

/-! # Summaries as JSON -/

namespace CodeGraph

/-- A report as JSON. -/
def FileReport.toJson (r : FileReport) : Json :=
  match r.outcome with
  | .ingested counts resolved =>
    .object [("path", .string r.path), ("status", .string "ingested"), ("counts", counts.toJson),
      ("resolved_imports", .nat resolved)]
  | .failed stage problem =>
    .object [("path", .string r.path), ("status", .string "failed"), ("stage", .string stage.name),
      ("error", .string problem)]

/-- A summary as JSON. -/
def RunSummary.toJson (s : RunSummary) : Json :=
  .object [("files_processed", .nat s.processed), ("files_failed", .nat s.failed),
    ("reports", .array (s.reports.map FileReport.toJson)),
    ("graph", match s.graph with
      | some g => g.toJson
      | none => .null),
    ("elapsed", .nat s.elapsedMillis), ("stopped", .bool s.stopped)]

end CodeGraph
