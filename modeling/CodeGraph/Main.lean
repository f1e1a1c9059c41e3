import CodeGraph.Command.Arguments
import CodeGraph.Command.Run
import CodeGraph.Graph.Url

/-! # The program

Reads the command line, the environment and the files that a command needs, runs the command, and
writes what it leaves: results to standard output, the log to standard error, and an exported graph
to its file. No requests are sent from here: a database counts as one that cannot be reached. -/

namespace CodeGraph.Main

/-- The place of a path, if something is there. -/
def realPlace? (path : String) : IO (Option (List String)) := do
  try
    return some (FileTree.names (← IO.FS.realPath path).toString)
  catch _ => return none

/-- What is at a path, if it can be found out. The places of files that may not be read are added to
those known. -/
partial def load (path : String) : StateT (List (List String)) IO (Option Entry) := do
  try
    let real ← IO.FS.realPath path
    match (← real.metadata).type with
    | .dir =>
      let mut children : Array (String × Entry) := #[]
      for child in ← real.readDir do
        let childPath := child.path.toString
        if (← child.path.symlinkMetadata).type == .symlink then
          let place ← realPlace? childPath
          children := children.push (child.fileName, .link (FileTree.absolute (place.getD [])))
        else if let some e ← load childPath then
          children := children.push (child.fileName, e)
      return some (.dir children.toList)
    | .file =>
      try
        return some (.file (← IO.FS.readBinFile path))
      catch _ =>
        modify (FileTree.names real.toString :: ·)
        return some (.file .empty)
    | _ => return none
  catch _ => return none

/-- The files with what is at a path among them. A path that leads there otherwise becomes a
link. -/
def including (tree : FileTree) (path : String) : IO FileTree := do
  let (found, locked) ← (load path).run tree.locked
  match ← realPlace? path, found with
  | some place, some e =>
    let tree := { tree.put place e with locked }
    match tree.resolve path with
    | .ok _ => return tree
    | .error _ =>
      return tree.put (tree.base path ++ FileTree.names path) (.link (FileTree.absolute place))
  | _, _ => return tree

/-- The files with what is at some paths beside them. -/
def includingAll (tree : FileTree) : List String → IO FileTree
  | [] => return tree
  | path :: paths => do includingAll (← including tree path) paths

/-- The files that tell what to ignore in the directories around one, and for the user. -/
def ignorePaths (dir : List String) (home : Option String) : List String :=
  let around := (List.range dir.length).map fun n => FileTree.absolute (dir.take n)
  around.flatMap (fun d => [d ++ "/.gitignore", d ++ "/.ignore", d ++ "/.git/info/exclude"])
    ++ (home.map fun h => [h ++ "/.gitconfig", h ++ "/.config/git"]).getD []

/-- The files that a command needs. -/
def filesFor (invocation : Invocation) (home : Option String) (tree : FileTree) : IO FileTree := do
  match invocation.command with
  | .extract options => including tree options.file
  | .ingest options =>
    let tree ← including tree (invocation.config.getD Command.settingsName)
    let file := (Command.loadSettings tree invocation.config).value.toOption.getD {}
    let root := (Settings.resolve options file none).run.root
    match ← realPlace? root with
    | some place => including (← includingAll tree (ignorePaths place home)) root
    | none => return { tree with unnamed := [(root, .notFound)] }

/-- Whether a record is logged under a filter. -/
def isLogged (filter : String) (r : LogRecord) : Bool :=
  match r.level with
  | .warn => true
  | .info => filter != "warn"
  | .debug => filter == "debug" || filter == "trace"

/-- Prints why a command fails. -/
def printFailure (e : CommandError) : IO Unit := do
  match e.chain with
  | [] => return
  | outer :: causes =>
    IO.eprintln s!"Error: {outer}"
    for cause in causes do
      IO.eprintln s!"  caused by: {cause}"

/-- Writes the file to which a graph was exported. -/
def writeExport (invocation : Invocation) (tree : FileTree) : IO Unit := do
  match invocation.command with
  | .ingest options => match options.exportPath with
    | some path => match tree.read path with
      | .ok bytes => IO.FS.writeBinFile path bytes
      | .error _ => return
    | none => return
  | .extract _ => return

/-- The variables of the environment that the program knows. -/
def knownVariables : IO (List (String × String)) := do
  let names := "NEO4J_USER" :: Arguments.ingest.arguments.filterMap (·.variableName)
  let mut found : Array (String × String) := #[]
  for name in names do
    if let some value ← IO.getEnv name then
      found := found.push (name, value)
  return found.toList

/-- Runs a command. -/
def run (invocation : Invocation) (environment : List (String × String)) : IO UInt32 := do
  let start ← IO.monoNanosNow
  let home ← IO.getEnv "HOME"
  let workDir := (← realPlace? ".").getD []
  let empty : FileTree := { workDir }
  let tree ← filesFor invocation home (empty.put workDir (.dir []))
  let context : CommandContext Unit :=
    { environment, home, address := Url.normal?, transport := Transport.unreachable }
  let logged := Command.run context invocation ((← IO.monoNanosNow) - start) tree ()
  for r in logged.records do
    if isLogged invocation.logFilter r then
      IO.eprintln s!"[{r.level.name}] {r.message}"
  match logged.value.printed with
  | .ok printed =>
    writeExport invocation logged.value.tree
    IO.print printed
    return 0
  | .error e =>
    printFailure e
    return 1

/-- How the program is used. -/
def usageText : String :=
  "Usage: [--config FILE] [-v | -q] ingest [OPTIONS]\n       [--config FILE] [-v | -q] extract FILE [--tolerate-syntax-errors]\n\nOptions of ingest: "
    ++ ", ".intercalate (Arguments.ingest.arguments.map fun a => "--" ++ a.name)

end CodeGraph.Main

/-- Follows the command line. -/
def main (args : List String) : IO UInt32 := do
  let environment ← CodeGraph.Main.knownVariables
  match CodeGraph.Arguments.parse environment args with
  | .ok invocation => CodeGraph.Main.run invocation environment
  | .error .help =>
    IO.println CodeGraph.Main.usageText
    return 0
  | .error .version =>
    IO.println "0.1.0"
    return 0
  | .error e =>
    IO.eprintln s!"error: {e.message}\n\n{CodeGraph.Main.usageText}"
    return e.exitCode.toUInt32
