import CodeGraph.Command.Options

/-! # Command lines

A command line is read from left to right. First come arguments that hold for every command, then
the name of a command, then its own arguments, among which the former may stand again; where both
places give an argument, the one after the command counts. A value in the place after an argument is
looked at only when the argument is complete, that is, when the next one begins or the line ends.
What an argument does not say may be said by an environment variable. -/

namespace CodeGraph

/-- Why a command line cannot be followed. Two of the reasons are requests for information. -/
inductive UsageError where
  | help
  | version
  /-- There is nothing on the command line. -/
  | nothingGiven
  | missingCommand
  | unknownCommand (word : String)
  | unknownArgument (word : String)
  | missingArgument (name : String)
  /-- A value is missing, or empty where it must not be. -/
  | invalidValue (name : String)
  /-- A value is given to an argument that has none. -/
  | unexpectedValue (name : String)
  /-- An argument cannot be given again, or not together with another. -/
  | conflict (name other : String)
  deriving BEq, DecidableEq, Repr, Inhabited

namespace UsageError

/-- The exit code of the program. -/
def exitCode : UsageError → Nat
  | help | version => 0
  | _ => 2

/-- The error in words. -/
def message : UsageError → String
  | help => ""
  | version => ""
  | nothingGiven => "no command given"
  | missingCommand => "a command is required"
  | unknownCommand word => s!"unknown command '{word}'"
  | unknownArgument word => s!"unexpected argument '{word}'"
  | missingArgument name => s!"the argument '{name}' is required"
  | invalidValue name => s!"the argument '{name}' needs a value"
  | unexpectedValue name => s!"the argument '{name}' takes no value"
  | conflict name other => s!"the argument '{name}' cannot be used with '{other}'"

end UsageError

/-- What an argument stands for. -/
inductive ArgumentKind where
  /-- It is given or not. -/
  | switch
  /-- It counts how often it is given. -/
  | count
  /-- It has a value. -/
  | value (mayBeEmpty : Bool)
  | help
  | version
  deriving BEq, DecidableEq, Repr, Inhabited

/-- An argument. An argument with a value has no short form. -/
structure Argument where
  name : String
  kind : ArgumentKind
  short : Option Char := none
  /-- The environment variable that gives its value otherwise. -/
  variableName : Option String := none
  deriving BEq, DecidableEq, Repr, Inhabited

/-- Whether an argument has a value. -/
def Argument.takesValue (a : Argument) : Bool :=
  match a.kind with
  | .value _ => true
  | _ => false

/-- The arguments of a command. -/
structure Usage where
  arguments : List Argument
  /-- The argument without a name; it must be given. -/
  operand : Option Argument := none
  /-- Names of commands that can follow. -/
  commands : List String := []
  /-- Pairs of arguments of which the first needs the second. -/
  requirements : List (String × String) := []
  deriving Repr, Inhabited

/-- What has been given for an argument. -/
inductive Given where
  | times (n : Nat)
  | text (s : String)
  deriving BEq, DecidableEq, Repr, Inhabited

/-- A command line on the way. -/
structure CommandLine where
  given : List (String × Given) := []
  /-- An argument that is not complete, with its value if that has come. -/
  pending : Option (Argument × Option String) := none
  /-- Whether the argument without a name has come. -/
  hasOperand : Bool := false
  deriving Inhabited

/-- How often an argument can be counted. -/
def maxCount : Nat := 255

namespace CommandLine

/-- Whether an argument has been given. -/
def has (l : CommandLine) (name : String) : Bool := (l.given.lookup name).isSome

/-- How often an argument has been given. -/
def times (l : CommandLine) (name : String) : Nat :=
  match l.given.lookup name with
  | some (.times n) => n
  | _ => 0

/-- The value of an argument. -/
def text? (l : CommandLine) (name : String) : Option String :=
  match l.given.lookup name with
  | some (.text s) => some s
  | _ => none

/-- Whether the next word is the value of an argument. -/
def awaits (l : CommandLine) : Bool :=
  match l.pending with
  | some (_, none) => true
  | _ => false

/-- Takes an argument with its value. -/
def accept (l : CommandLine) (a : Argument) (v : Option String) : Except UsageError CommandLine :=
  match a.kind, v with
  | .help, _ => .error .help
  | .version, _ => .error .version
  | .count, _ =>
    let n := min maxCount (l.times a.name + 1)
    .ok { l with given := (a.name, .times n) :: l.given }
  | .switch, _ =>
    if l.has a.name then .error (.conflict a.name a.name)
    else .ok { l with given := (a.name, .times 1) :: l.given }
  | .value _, none => .error (.invalidValue a.name)
  | .value mayBeEmpty, some s =>
    if l.has a.name then .error (.conflict a.name a.name)
    else if s.isEmpty && !mayBeEmpty then .error (.invalidValue a.name)
    else .ok { l with given := (a.name, .text s) :: l.given }

/-- Completes the argument that is not complete. -/
def settle (l : CommandLine) : Except UsageError CommandLine :=
  match l.pending with
  | some (a, v) => accept { l with pending := none } a v
  | none => .ok l

/-- Completes the argument before and takes another one. -/
def next (l : CommandLine) (a : Argument) (v : Option String) : Except UsageError CommandLine := do
  (← l.settle).accept a v

/-- A word with two dashes in front, without them: a name, and perhaps a value after an equals
sign. -/
def long (u : Usage) (l : CommandLine) (word : List Char) : Except UsageError CommandLine :=
  let name := String.ofList (word.takeWhile (· != '='))
  let attached := match word.dropWhile (· != '=') with
    | _ :: v => some (String.ofList v)
    | [] => none
  match u.arguments.find? (·.name == name) with
  | none => .error (.unknownArgument ("--" ++ name))
  | some a =>
    if a.takesValue then match attached with
      | some v => l.next a (some v)
      | none => l.settle.map fun l => { l with pending := some (a, none) }
    else match attached with
      | some _ => .error (.unexpectedValue name)
      | none => l.next a none

/-- A word with one dash in front, without it: each letter is an argument. -/
def shorts (u : Usage) (l : CommandLine) : List Char → Except UsageError CommandLine
  | [] => .ok l
  | c :: cs =>
    match u.arguments.find? (·.short == some c) with
    | some a => (l.next a none).bind fun l => shorts u l cs
    | none => .error (.unknownArgument (String.ofList ['-', c]))

/-- A word without a dash in front, or any word after two dashes alone. -/
def operand (u : Usage) (trailing : Bool) (l : CommandLine) (word : String) :
    Except UsageError CommandLine :=
  match u.operand, l.hasOperand with
  | some a, false => l.settle.map fun l => { l with pending := some (a, some word), hasOperand := true }
  | _, _ =>
    if u.commands.isEmpty || (trailing && u.commands.contains word) then
      .error (.unknownArgument word)
    else .error (.unknownCommand word)

/-- Reads words up to the name of a command, which is returned with the words after it. After two
dashes alone, every word is one without a name. -/
def words (u : Usage) (trailing : Bool) (l : CommandLine) :
    List String → Except UsageError (CommandLine × Option (String × List String))
  | [] => .ok (l, none)
  | word :: rest =>
    if trailing then (l.operand u true word).bind fun l => words u true l rest
    else if !l.awaits && u.commands.contains word then .ok (l, some (word, rest))
    else match word.toList with
      | ['-', '-'] => words u true l rest
      | '-' :: '-' :: cs => (l.long u cs).bind fun l => words u false l rest
      | '-' :: c :: cs => (l.shorts u (c :: cs)).bind fun l => words u false l rest
      | _ => match l.pending with
        | some (a, none) => words u false { l with pending := some (a, some word) } rest
        | _ => (l.operand u false word).bind fun l => words u false l rest

/-- Takes from the environment what has not been given. -/
def fillIn (environment : List (String × String)) :
    List Argument → CommandLine → Except UsageError CommandLine
  | [], l => .ok l
  | a :: rest, l =>
    match if l.has a.name then none else a.variableName.bind fun n => environment.lookup n with
    | some v => (l.accept a (some v)).bind (fillIn environment rest)
    | none => fillIn environment rest l

end CommandLine

namespace Arguments

/-- The settings file. -/
def config : Argument := { name := "config", kind := .value false }

/-- More logging. -/
def verbose : Argument := { name := "verbose", kind := .count, short := some 'v' }

/-- Less logging. -/
def quiet : Argument := { name := "quiet", kind := .switch, short := some 'q' }

/-- Help. -/
def help : Argument := { name := "help", kind := .help, short := some 'h' }

/-- The version. -/
def version : Argument := { name := "version", kind := .version, short := some 'V' }

/-- Arguments that hold for every command. -/
def shared : List Argument := [config, verbose, quiet]

/-- Whether syntax errors are tolerated. -/
def tolerate : Argument := { name := "tolerate-syntax-errors", kind := .switch }

/-- The arguments in front of a command. -/
def program : Usage :=
  { arguments := shared ++ [help, version], commands := ["ingest", "extract", "help"] }

/-- The arguments of the command that ingests. -/
def ingest : Usage where
  arguments := [
    { name := "root", kind := .value false, variableName := some "REPO_ROOT" },
    { name := "uri", kind := .value true, variableName := some "NEO4J_URI" },
    { name := "username", kind := .value true, variableName := some "NEO4J_USERNAME" },
    { name := "password", kind := .value true, variableName := some "NEO4J_PASSWORD" },
    { name := "database", kind := .value true, variableName := some "NEO4J_DATABASE" },
    { name := "dry-run", kind := .switch },
    { name := "export", kind := .value false },
    tolerate,
    { name := "no-gitignore", kind := .switch },
    { name := "json", kind := .switch }] ++ shared ++ [help]
  requirements := [("export", "dry-run")]

/-- The arguments of the command that extracts. -/
def extract : Usage where
  arguments := tolerate :: shared ++ [help]
  operand := some { name := "FILE", kind := .value false }

/-- Checks what must not be given together, and what must be given. -/
def check (u : Usage) (l : CommandLine) : Except UsageError CommandLine :=
  if l.has verbose.name && l.has quiet.name then .error (.conflict verbose.name quiet.name)
  else match u.operand with
    | some a => if l.has a.name then .ok l else .error (.missingArgument a.name)
    | none => match u.requirements.find? fun r => l.has r.1 && !l.has r.2 with
      | some r => .error (.missingArgument r.2)
      | none => .ok l

/-- Reads the arguments of a command to the end. -/
def whole (u : Usage) (environment : List (String × String)) (args : List String) :
    Except UsageError CommandLine := do
  let (l, _) ← CommandLine.words u false {} args
  check u (← CommandLine.fillIn environment u.arguments (← l.settle))

/-- How a repository is to be ingested. -/
def ingestOptions (l : CommandLine) : IngestOptions where
  root := l.text? "root"
  uri := l.text? "uri"
  username := l.text? "username"
  password := l.text? "password"
  database := l.text? "database"
  dryRun := l.has "dry-run"
  exportPath := l.text? "export"
  tolerant := l.has tolerate.name
  noIgnore := l.has "no-gitignore"
  json := l.has "json"

/-- The file whose facts are to be printed. -/
def extractOptions (l : CommandLine) : ExtractOptions where
  file := (l.text? "FILE").getD ""
  tolerant := l.has tolerate.name

/-- What is asked for after the word for help: a command that there is. -/
def helpFor : List String → UsageError
  | [] => .help
  | [word] => if program.commands.contains word then .help else .unknownCommand word
  | word :: other :: _ =>
    .unknownCommand (if program.commands.contains word then other else word)

/-- A command and its arguments. -/
def command (environment : List (String × String)) (name : String) (args : List String) :
    Except UsageError (CommandLine × Command) :=
  match name with
  | "ingest" => (whole ingest environment args).map fun l => (l, .ingest (ingestOptions l))
  | "extract" => (whole extract environment args).map fun l => (l, .extract (extractOptions l))
  | _ => .error (helpFor args)

/-- The words of a command line as a command, with the variables of the environment. -/
def parse (environment : List (String × String)) (args : List String) :
    Except UsageError Invocation := do
  let (l, found) ← CommandLine.words program false {} args
  match found with
  | some (name, rest) =>
    let (own, command) ← command environment name rest
    let l ← check program (← l.settle)
    let last (a : Argument) : CommandLine := if own.has a.name then own else l
    return {
      config := (last config).text? config.name
      verbose := (last verbose).times verbose.name
      quiet := (last quiet).has quiet.name
      command }
  | none =>
    let l ← l.settle
    if l.given.isEmpty then .error .nothingGiven else .error .missingCommand

end Arguments

end CodeGraph
