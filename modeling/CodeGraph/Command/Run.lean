import CodeGraph.Facts.Json
import CodeGraph.Graph.Export
import CodeGraph.Run.Json
import CodeGraph.Settings

/-! # Running commands

What the commands print, what they write, and how they fail. A failure is told from the outside in:
what was to be done, then what went wrong. -/

namespace CodeGraph

/-- Why a command fails. -/
inductive CommandError where
  | sourceUnreadable (path : String) (error : FileError)
  | source (error : SourceError)
  | settingsUnreadable (path : String) (error : FileError)
  | settingsInvalid (path : String)
  | storeInvalid (error : GraphError)
  | runFailed (root : String) (error : RunError)
  | exportFailed (path : String) (error : GraphError)
  deriving BEq, DecidableEq, Repr, Inhabited

namespace CommandError

/-- What is wrong with a settings file that is not in order. -/
def settingsProblem : String := "the file is not in order or says more than it can"

/-- An error of a backend and what lies behind it. -/
def graphChain (e : GraphError) : List String :=
  match e with
  | .file problem => [e.message, problem]
  | _ => [e.message]

/-- An error of a run and what lies behind it. -/
def runChain (e : RunError) : List String :=
  match e with
  | .root (.unnamed error) => [e.message, error.message]
  | _ => [e.message]

/-- The error in words, the outermost first. -/
def chain : CommandError → List String
  | sourceUnreadable path e => ["Failed to read " ++ path, e.message]
  | source e => [e.message]
  | settingsUnreadable path e => ["Failed to read config " ++ path, e.message]
  | settingsInvalid path => ["in " ++ path, "Invalid configuration", settingsProblem]
  | storeInvalid e => "Invalid Neo4j connection settings" :: graphChain e
  | runFailed root e => s!"Ingestion of {root} failed" :: runChain e
  | exportFailed path e => ("Failed to export graph to " ++ path) :: graphChain e

end CommandError

/-- What a command finds around it. -/
structure CommandContext (τ : Type) where
  /-- Variables of the environment. -/
  environment : List (String × String) := []
  /-- The home directory of the user. -/
  home : Option String := none
  /-- What a text is taken for as a web address. -/
  address : String → Option String
  /-- What carries requests to the database. -/
  transport : Transport τ

/-- What a command leaves: what it prints or why it fails, the files, and the other side of the
transport. -/
structure CommandResult (τ : Type) where
  printed : Except CommandError String
  tree : FileTree
  other : τ

namespace Command

/-- The name of the settings file if none is named. -/
def settingsName : String := "repograph.toml"

/-- The settings in a file. -/
def readSettings (tree : FileTree) (path : String) : Logged (Except CommandError FileSettings) :=
  match tree.readText path with
  | .error e => return .error (.settingsUnreadable path e)
  | .ok text => match FileSettings.parse? text with
    | none => return .error (.settingsInvalid path)
    | some settings => do
      Logged.log .debug ("Loaded configuration from " ++ path) .command
      return .ok settings

/-- The settings in the file that is named, or else in the one in the working directory, if there is
one. -/
def loadSettings (tree : FileTree) (named : Option String) :
    Logged (Except CommandError FileSettings) :=
  match named with
  | some path => readSettings tree path
  | none => if tree.isFile settingsName then readSettings tree settingsName else return .ok {}

/-- The line of a file that failed. -/
def failureLine (r : FileReport) : String :=
  match r.outcome with
  | .failed stage problem => s!"FAILED {r.path} ({stage.name}): " ++ problem ++ "\n"
  | .ingested _ _ => ""

/-- A summary as it is printed. -/
def summaryText (json : Bool) (s : RunSummary) : String :=
  if json then s.toJson.pretty ++ "\n"
  else String.join (s.failures.map failureLine) ++ s.display ++ "\n"

section Run

variable {τ : Type} (context : CommandContext τ)

/-- Ingests into memory, and writes the graph to a file if one is named. -/
def ingestDry (options : IngestOptions) (settings : Settings) (elapsed : Nat) (tree : FileTree) :
    Logged (Except CommandError String × FileTree) := do
  let around : Surroundings Store :=
    { tree := fun _ => tree, stopRequested := fun _ => false, home := context.home }
  let pipeline : Pipeline := { config := settings.run }
  let (result, _, store) ← pipeline.run Backend.memory around elapsed Store.empty
  match result with
  | .error e => return (.error (.runFailed settings.run.root e), tree)
  | .ok summary =>
    let printed := summaryText options.json summary
    match options.exportPath with
    | none => return (.ok printed, tree)
    | some path => match ← store.exportTo tree path with
      | .ok tree => return (.ok printed, tree)
      | .error e => return (.error (.exportFailed path e), tree)

/-- Ingests into the database. -/
def ingestRemote (options : IngestOptions) (settings : Settings) (elapsed : Nat) (tree : FileTree)
    (other : τ) : Logged (Except CommandError String × τ) :=
  match Remote.ofConfig context.address settings.store with
  | .error e => return (.error (.storeInvalid e), other)
  | .ok remote => do
    let around : Surroundings τ :=
      { tree := fun _ => tree, stopRequested := fun _ => false, home := context.home }
    let pipeline : Pipeline := { config := settings.run }
    let (result, _, other) ←
      pipeline.run (remote.backend context.transport) around elapsed other
    match result with
    | .error e => return (.error (.runFailed settings.run.root e), other)
    | .ok summary => return (.ok (summaryText options.json summary), other)

/-- The name of the user in an older environment variable; an empty one does not count. -/
def olderUser (environment : List (String × String)) : Option String :=
  (environment.lookup "NEO4J_USER").filter fun u => !u.isEmpty

/-- Ingests a repository. -/
def runIngest (options : IngestOptions) (named : Option String) (elapsed : Nat) (tree : FileTree)
    (other : τ) : Logged (CommandResult τ) := do
  match ← loadSettings tree named with
  | .error e => return ⟨.error e, tree, other⟩
  | .ok file =>
    let settings := Settings.resolve options file (olderUser context.environment)
    if options.dryRun then
      let (printed, tree) ← ingestDry context options settings elapsed tree
      return ⟨printed, tree, other⟩
    else
      let (printed, other) ← ingestRemote context options settings elapsed tree other
      return ⟨printed, tree, other⟩

end Run

/-- Prints the facts of a file. -/
def runExtract (options : ExtractOptions) (tree : FileTree) : Logged (Except CommandError String) :=
  match tree.readText options.file with
  | .error e => return .error (.sourceUnreadable options.file e)
  | .ok text => do
    let path := Path.slashed options.file
    match ← Source.extract options.tolerant path text with
    | .error e => return .error (.source e)
    | .ok facts =>
      Logged.log .info (path ++ ": " ++ facts.counts.display) .command
      return .ok (facts.toJson.pretty ++ "\n")

/-- Runs a command. `elapsed` is the time that it takes, in nanoseconds. -/
def run {τ : Type} (context : CommandContext τ) (invocation : Invocation) (elapsed : Nat)
    (tree : FileTree) (other : τ) : Logged (CommandResult τ) :=
  match invocation.command with
  | .ingest options => runIngest context options invocation.config elapsed tree other
  | .extract options => do return ⟨← runExtract options tree, tree, other⟩

end Command

end CodeGraph
