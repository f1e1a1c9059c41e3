import CodeGraph.Files.Walk
import CodeGraph.Imports
import CodeGraph.Run.Summary
import CodeGraph.Text.Utf8

/-! # Ingestion runs

A run walks a repository and writes the facts of each source file to a backend. Each file is written
before the next one is read; a file that fails is reported and passed over. A run fails as a whole
only if there is no repository, if its place cannot be told or if the backend cannot be reached. -/

namespace CodeGraph

/-- What is ingested. -/
structure RunConfig where
  /-- The path of the repository. -/
  root : String
  /-- Extensions of source files. -/
  extensions : List String := sourceExtensions
  /-- Whether ignore files count. -/
  ignoring : Bool := true
  /-- Whether files with syntax errors are ingested as far as they can be read. -/
  tolerant : Bool := false
  deriving BEq, DecidableEq, Repr, Inhabited

/-- Where a run is. -/
inductive RunStage where
  | idle
  | listing
  | parsing
  | extracting
  | resolving
  | writing
  | summarizing
  | done
  | aborted
  deriving BEq, DecidableEq, Repr, Inhabited

/-- The name of a stage. -/
def RunStage.name : RunStage → String
  | idle => "Idle"
  | listing => "Listing"
  | parsing => "Parsing"
  | extracting => "Extracting"
  | resolving => "Resolving"
  | writing => "Writing"
  | summarizing => "Summarizing"
  | done => "Done"
  | aborted => "Aborted"

/-- Why a run fails as a whole. -/
inductive RunError where
  /-- There is nothing to walk. -/
  | root (error : RootError)
  /-- The backend cannot be reached. -/
  | connection (problem : String)
  deriving BEq, DecidableEq, Repr, Inhabited

/-- The error in words. -/
def RunError.message : RunError → String
  | root error => error.message
  | connection problem => "Graph store unavailable: " ++ problem

/-- What a run sees around it, in each state: the files, and whether it is asked to stop. -/
structure Surroundings (σ : Type) where
  tree : σ → FileTree
  stopRequested : σ → Bool
  /-- What changes by itself before a file is visited, such as that the run is asked to stop. -/
  meanwhile : σ → σ := id
  /-- The home directory of the user. -/
  home : Option String := none

/-- A run on its way. -/
structure Running (σ : Type) where
  stage : RunStage
  summary : RunSummary := {}
  state : σ

namespace Run

section Files

variable {σ : Type} (config : RunConfig) (backend : Backend σ) (around : Surroundings σ)
  (locator : Locator)

/-- The text of a file, with replacements where it is not text. -/
def decode (path : String) (bytes : ByteArray) : Logged String :=
  match String.fromUTF8? bytes with
  | some text => return text
  | none => do
    Logged.debug s!"{path}: not valid UTF-8, replacing undecodable bytes"
    return Text.ofUtf8Lossy bytes

/-- Whether a path below the root is a file. -/
def isFileBelow (t : FileTree) (root : List String) (path : String) : Bool :=
  t.isFile (FileTree.absolute root ++ "/" ++ path)

/-- Adds a target unless it is there. -/
def addTarget (targets : List String) : Option String → List String
  | some t => if targets.contains t then targets else targets ++ [t]
  | none => targets

/-- The files that imports mean, each once, in the order of the imports. -/
def resolveAll (isFile : String → Bool) (path : String) (language : Language) :
    List String → List ImportFact → Logged (List String)
  | targets, [] => return targets
  | targets, i :: rest => do
    let target ← Imports.resolve isFile path i.specifier language
    resolveAll isFile path language (addTarget targets target) rest

/-- Ingests one file. -/
def ingestFile (place : List String) (path : String) (r : Running σ) :
    Logged (Except IngestError FileReport × Running σ) := do
  let r := { r with stage := .parsing }
  match (around.tree r.state).read (FileTree.absolute place) with
  | .error e => return (.error (.read path e.message), r)
  | .ok bytes =>
    let text ← decode path bytes
    match ← Source.parse config.tolerant path text with
    | .error e => return (.error (.parse e), r)
    | .ok parsed =>
      let r := { r with stage := .extracting }
      let facts ← parsed.facts path
      let r := { r with stage := .resolving }
      let isFile := isFileBelow (around.tree r.state) locator.root
      let resolved ← resolveAll isFile path facts.language [] facts.imports
      let r := { r with stage := .writing }
      match ← backend.write facts resolved r.state with
      | (.error e, s) => return (.error (.write path e), { r with state := s })
      | (.ok _, s) =>
        Logged.info s!"Ingested {path}: {facts.counts.display}, resolved_imports={resolved.length}"
        return (.ok ⟨path, .ingested facts.counts resolved.length⟩, { r with state := s })

/-- Visits one file of the walk: it is ingested and reported, unless the run is asked to stop. -/
def visitFile (place : List String) (r : Running σ) : Logged (Locator.Progress (Running σ)) := do
  let r := { r with state := around.meanwhile r.state }
  if around.stopRequested r.state then
    Logged.warn s!"Stop requested, ending run after {r.summary.reports.length} files"
    return .ended { r with summary := { r.summary with stopped := true } }
  else
    let path := locator.relativePath place
    match ← ingestFile config backend around locator place path r with
    | (.ok report, r) => return .going { r with summary := r.summary.record report }
    | (.error e, r) =>
      Logged.warn s!"Failed to ingest {path} ({e.stage.name}): {e.message}"
      return .going { r with summary := r.summary.record (.ofError path e) }

end Files

section Whole

variable {σ : Type} (config : RunConfig) (backend : Backend σ) (around : Surroundings σ)

/-- Ends a run that fails as a whole. -/
def abort (e : RunError) (s : σ) : Logged (Except RunError RunSummary × RunStage × σ) := do
  Logged.warn ("Run aborted: " ++ e.message)
  return (.error e, .aborted, s)

/-- The part of a run after the backend has been reached. -/
def ingest (locator : Locator) (elapsed : Nat) (s : σ) :
    Logged (Except RunError RunSummary × RunStage × σ) := do
  Logged.info s!"Ingesting {FileTree.absolute locator.root} into {backend.name}"
  let visited ← locator.visitAll (fun (r : Running σ) => around.tree r.state)
    (visitFile config backend around locator) { stage := .listing, state := s }
  let r := { visited.state with stage := .summarizing }
  let (counts, s) ← backend.counts r.state
  let graph ← match counts with
    | .ok c => pure (some c)
    | .error e => do
      Logged.warn s!"Could not read graph totals: {e.message}"
      pure none
  let summary := { r.summary with graph, elapsed }
  Logged.info s!"Ingestion completed: {summary.display}"
  return (.ok summary, .done, s)

/-- A run. `elapsed` is the time that it takes, in nanoseconds; the result has the stage in which
the run ends. -/
def run (elapsed : Nat) (s : σ) : Logged (Except RunError RunSummary × RunStage × σ) := do
  match Locator.ofPath (around.tree s) config.root config.extensions config.ignoring around.home with
  | .error e => abort (.root e) s
  | .ok locator =>
    match ← backend.verify s with
    | (.error e, s) => abort (.connection e.message) s
    | (.ok (), s) => ingest config backend around locator elapsed s

end Whole

end Run

/-- What runs, any number of times, with the stage of its last run. -/
structure Pipeline where
  config : RunConfig
  stage : RunStage := .idle
  deriving BEq, DecidableEq, Repr, Inhabited

/-- Runs once. -/
def Pipeline.run {σ : Type} (p : Pipeline) (backend : Backend σ) (around : Surroundings σ)
    (elapsed : Nat) (s : σ) : Logged (Except RunError RunSummary × Pipeline × σ) := do
  let (result, stage, s) ← Run.run p.config backend around elapsed s
  return (result, { p with stage }, s)

end CodeGraph
