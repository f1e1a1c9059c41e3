import CodeGraph.Files.Tree
import CodeGraph.Ignore.Glob
import CodeGraph.Text.Blank

/-! # Ignore files

The lines of an ignore file say which paths below its directory are left out. A line is a pattern; a
mark at its start takes paths back in, and a slash at its end restricts it to directories. Of the
lines that match a path the last one decides. -/

namespace CodeGraph

/-- One line of an ignore file. -/
structure IgnoreRule where
  glob : Glob
  /-- Matching paths are taken back in. -/
  keeps : Bool
  onlyDirs : Bool
  deriving BEq, Repr, Inhabited

/-- What ignore files say of a path. -/
inductive Verdict where
  | silent
  | ignored
  | kept
  deriving BEq, DecidableEq, Repr, Inhabited

/-- The first verdict, unless it says nothing. -/
def Verdict.or : Verdict → Verdict → Verdict
  | silent, v => v
  | u, _ => u

/-- What is wrong with a line of an ignore file. -/
inductive IgnoreProblem where
  | pattern (line : String) (error : GlobError)
  /-- The line is not text. -/
  | notText
  deriving BEq, DecidableEq, Repr, Inhabited

/-- The problem in words. -/
def IgnoreProblem.message : IgnoreProblem → String
  | pattern line error => "error parsing glob '" ++ line ++ "': " ++ error.message
  | notText => FileError.notText.message

namespace IgnoreRule

/-- A line without its white space at the end, unless an escaped blank ends it. -/
def trimmed (line : String) : String := if line.endsWith "\\ " then line else Text.trimEnd line

/-- The pattern of a line, given what is left of it and whether it began with a slash. A pattern
without slashes matches at any depth; one for everything in a directory does not match the
directory. -/
def patternText (body : List Char) (anchored : Bool) : List Char :=
  let anyDepth := "**/".toList
  let text :=
    if !anchored && !body.contains '/' && !(body == ['*', '*']) && !anyDepth.isPrefixOf body then
      anyDepth ++ body
    else body
  if "/**".toList.isSuffixOf text then text ++ ['/', '*'] else text

/-- Takes off what a line starts with: whether its paths are taken back in, and whether it began
with a slash. -/
def takeMarks : List Char → Bool × Bool × List Char
  | '\\' :: '!' :: rest => (false, false, '!' :: rest)
  | '\\' :: '#' :: rest => (false, false, '#' :: rest)
  | '!' :: '/' :: rest => (true, true, rest)
  | '!' :: rest => (true, false, rest)
  | '/' :: rest => (false, true, rest)
  | cs => (false, false, cs)

/-- Takes off a slash at the end, with the escape before it, and says whether there was one. -/
def takeEnd (cs : List Char) : Bool × List Char :=
  match cs.reverse with
  | '/' :: '\\' :: rest => (true, rest.reverse)
  | '/' :: rest => (true, rest.reverse)
  | _ => (false, cs)

/-- The rule of a line; comments and empty lines have none. -/
def ofLine (line : String) : Except IgnoreProblem (Option IgnoreRule) :=
  if line.startsWith "#" then .ok none
  else
    let line := trimmed line
    if line.isEmpty then .ok none
    else
      let (keeps, anchored, body) := takeMarks line.toList
      let (onlyDirs, body) := takeEnd body
      match Glob.parse (String.ofList (patternText body anchored)) with
      | .ok glob => .ok (some { glob, keeps, onlyDirs })
      | .error e => .error (.pattern line e)

/-- Whether a rule is about a path. -/
def isAbout (r : IgnoreRule) (path : List UInt8) (isDir : Bool) : Bool :=
  (!r.onlyDirs || isDir) && r.glob.matchesBytes path

end IgnoreRule

/-- An ignore file: its directory, its rules, last first, and what is wrong with it, by line. -/
structure IgnoreFile where
  place : List String
  rules : List IgnoreRule := []
  problems : List (Nat × IgnoreProblem) := []
  deriving Inhabited

namespace IgnoreFile

/-- Lines of bytes, each without its end. -/
def splitLines (bytes : List UInt8) : List (List UInt8) :=
  let lines := bytes.splitOn 10
  let complete := lines.dropLast.map fun l =>
    if l.getLast? == some 13 then l.dropLast else l
  match lines.getLast? with
  | some [] | none => complete
  | some l => complete ++ [l]

/-- Adds the lines from number `n` on. What follows a line that is not text is not read. -/
def addLines (f : IgnoreFile) (n : Nat) : List (List UInt8) → IgnoreFile
  | [] => f
  | l :: ls =>
    match String.fromUTF8? ⟨l.toArray⟩ with
    | none => { f with problems := f.problems ++ [(n, .notText)] }
    | some line =>
      let line := if n == 1 then Text.trimStartWhere (· == '\uFEFF') line else line
      let f := match IgnoreRule.ofLine line with
        | .ok (some rule) => { f with rules := rule :: f.rules }
        | .ok none => f
        | .error p => { f with problems := f.problems ++ [(n, p)] }
      addLines f (n + 1) ls

/-- The ignore file for a directory with given contents. -/
def ofBytes (place : List String) (bytes : ByteArray) : IgnoreFile :=
  addLines { place } 1 (splitLines bytes.toList)

/-- The path of a place as seen from the directory of the file. -/
def pathFrom (f : IgnoreFile) (place : List String) : String :=
  if f.place.isPrefixOf place then "/".intercalate (place.drop f.place.length)
  else FileTree.absolute place

/-- What the file says of a place. -/
def verdict (f : IgnoreFile) (place : List String) (isDir : Bool) : Verdict :=
  if f.rules.isEmpty then .silent
  else
    let path := (f.pathFrom place).toUTF8.toList
    match f.rules.find? (·.isAbout path isDir) with
    | some r => if r.keeps then .kept else .ignored
    | none => .silent

/-- The problems of a file in words, one on a line; `path` is where the file is. A file of which
only the reading fails has none. -/
def report (f : IgnoreFile) (path : String) : List String :=
  match f.problems with
  | [(_, .notText)] => []
  | problems => problems.map fun (n, p) => s!"{path}: line {n}: {p.message}"

end IgnoreFile

/-- The ignore files of one directory. -/
structure DirRules where
  own : IgnoreFile
  git : IgnoreFile
  excluded : IgnoreFile
  deriving Inhabited

namespace DirRules

/-- The ignore file at a path for a directory, empty if it cannot be read. -/
def load (t : FileTree) (dir : List String) (path : List String) : IgnoreFile :=
  match t.read (FileTree.absolute (dir ++ path)) with
  | .ok bytes => IgnoreFile.ofBytes dir bytes
  | .error _ => { place := dir }

/-- The ignore files of a directory. -/
def ofDir (t : FileTree) (dir : List String) : DirRules where
  own := load t dir [".ignore"]
  git := load t dir [".gitignore"]
  excluded := load t dir [".git", "info", "exclude"]

/-- The problems of the files of a directory. -/
def report (r : DirRules) (dir : List String) : List String :=
  r.own.report (FileTree.absolute (dir ++ [".ignore"]))
    ++ r.git.report (FileTree.absolute (dir ++ [".gitignore"]))
    ++ r.excluded.report (FileTree.absolute (dir ++ [".git", "info", "exclude"]))

end DirRules

/-- All ignore files that are in force in a directory: those of the directory and of the directories
around it, innermost first, and those of the user. -/
structure IgnoreRules where
  dirs : List DirRules := []
  user : Option IgnoreFile := none
  deriving Inhabited

namespace IgnoreRules

/-- The first of several files that says something. -/
def firstVerdict (files : List IgnoreFile) (place : List String) (isDir : Bool) : Verdict :=
  files.foldl (fun v f => v.or (f.verdict place isDir)) .silent

/-- What the files say of a place. Plain ignore files come before those of version control, and
among files of one kind the innermost comes first. -/
def verdict (r : IgnoreRules) (place : List String) (isDir : Bool) : Verdict :=
  (firstVerdict (r.dirs.map (·.own)) place isDir).or
    ((firstVerdict (r.dirs.map (·.git)) place isDir).or
      ((firstVerdict (r.dirs.map (·.excluded)) place isDir).or
        (firstVerdict r.user.toList place isDir)))

/-- The rules inside a directory. -/
def enter (r : IgnoreRules) (rules : DirRules) : IgnoreRules := { r with dirs := rules :: r.dirs }

end IgnoreRules

end CodeGraph
