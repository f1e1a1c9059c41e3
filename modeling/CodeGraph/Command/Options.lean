/-! # Commands

What the program can be asked to do: to ingest a repository, or to print the facts of one file. -/

namespace CodeGraph

/-- How a repository is to be ingested. What is not given comes from the settings file. -/
structure IngestOptions where
  root : Option String := none
  uri : Option String := none
  username : Option String := none
  password : Option String := none
  database : Option String := none
  /-- Whether the graph is built in memory and not sent to the database. -/
  dryRun : Bool := false
  /-- The file to which a graph in memory is written. -/
  exportPath : Option String := none
  /-- Whether files with syntax errors are ingested as far as they can be read. -/
  tolerant : Bool := false
  /-- Whether ignored files are ingested too. -/
  noIgnore : Bool := false
  /-- Whether the summary is printed as JSON. -/
  json : Bool := false
  deriving BEq, DecidableEq, Repr, Inhabited

/-- The file whose facts are to be printed. -/
structure ExtractOptions where
  file : String
  tolerant : Bool := false
  deriving BEq, DecidableEq, Repr, Inhabited

/-- A command. -/
inductive Command where
  | ingest (options : IngestOptions)
  | extract (options : ExtractOptions)
  deriving BEq, DecidableEq, Repr, Inhabited

/-- A command with what holds for every command. -/
structure Invocation where
  /-- The settings file, if one is named. -/
  config : Option String := none
  /-- How much more is to be logged. -/
  verbose : Nat := 0
  /-- Whether only warnings are to be logged. -/
  quiet : Bool := false
  command : Command
  deriving BEq, DecidableEq, Repr, Inhabited

/-- The name of the least level that is logged. -/
def Invocation.logFilter (i : Invocation) : String :=
  if i.quiet then "warn"
  else match i.verbose with
    | 0 => "info"
    | 1 => "debug"
    | _ => "trace"

end CodeGraph
