import CodeGraph.Ignore.User
import CodeGraph.Log
import CodeGraph.Text.Path

/-! # Walking a directory

The source files below a directory, in the order of their names. Hidden entries and links are left
out, and so is what ignore files exclude. A directory is listed when it is reached and not before,
so that what happens to one file can take others away. -/

namespace CodeGraph

/-- Why there is nothing to walk. -/
inductive RootError where
  /-- There is no directory at the path. -/
  | notFound (path : String)
  /-- There is a directory, but its place cannot be told. -/
  | unnamed (error : FileError)
  deriving BEq, DecidableEq, Repr, Inhabited

/-- The error in words. -/
def RootError.message : RootError → String
  | notFound path => "Repository root not found: " ++ path
  | unnamed error => "IO error: " ++ error.message

/-- Which files are visited. -/
structure Locator where
  /-- The directory, without links on the way. -/
  root : List String
  /-- Extensions of the files, in lower case. -/
  extensions : List String
  /-- Whether ignore files count. -/
  ignoring : Bool := true
  /-- The home directory of the user. -/
  home : Option String := none
  deriving Repr, Inhabited

namespace Locator

/-- An extension in the form in which extensions are compared: without dots in front and in lower
case. -/
def normalExtension (ext : String) : String :=
  (Text.trimStartWhere (· == '.') ext).map Char.toLower

/-- The locator for the directory at a path. -/
def ofPath (t : FileTree) (path : String) (extensions : List String) (ignoring : Bool)
    (home : Option String) : Except RootError Locator :=
  if t.isDir path then
    match t.canonicalize path with
    | .ok root => .ok { root, extensions := extensions.map normalExtension, ignoring, home }
    | .error e => .error (.unnamed e)
  else .error (.notFound path)

/-- Whether a name has one of the extensions. -/
def wants (l : Locator) (name : String) : Bool :=
  match Path.extensionOfName? name with
  | some ext => l.extensions.contains (ext.map Char.toLower)
  | none => false

/-- Whether a name is that of a hidden entry. -/
def isHidden (name : String) : Bool := name.startsWith "."

/-- Whether an entry is left out. Only where ignore files say nothing does it matter whether it is
hidden. -/
def skips (l : Locator) (rules : IgnoreRules) (place : List String) (name : String)
    (isDir : Bool) : Bool :=
  match if l.ignoring then rules.verdict place isDir else .silent with
  | .ignored => true
  | .kept => false
  | .silent => isHidden name

/-- The rules inside a directory. -/
def enter (l : Locator) (t : FileTree) (rules : IgnoreRules) (dir : List String) : IgnoreRules :=
  if l.ignoring then rules.enter (DirRules.ofDir t dir) else rules

/-- The directories around the root, the innermost first. -/
def above (l : Locator) : List (List String) :=
  (List.range l.root.length).reverse.map fun n => l.root.take n

/-- The rules around the root. -/
def outerRules (l : Locator) (t : FileTree) : IgnoreRules :=
  if l.ignoring then
    { dirs := l.above.map (DirRules.ofDir t), user := UserIgnore.load t l.home }
  else {}

/-- What is wrong with the ignore files around the root, outermost first. -/
def outerProblems (l : Locator) (t : FileTree) : List String :=
  if l.ignoring then l.above.reverse.flatMap fun dir => (DirRules.ofDir t dir).report dir else []

/-- What a visit leaves: a state to go on with, or one to end with. -/
inductive Progress (σ : Type) where
  | going (s : σ)
  | ended (s : σ)
  deriving Inhabited

/-- The state, whether or not the walk goes on. -/
def Progress.state {σ : Type} : Progress σ → σ
  | going s => s
  | ended s => s

/-- The entries of a directory in the order of their names. -/
def sorted (children : List (String × Entry)) : List (String × Entry) :=
  children.mergeSort fun a b => a.1 ≤ b.1

/-- What is reported of a directory that cannot be listed. -/
def unreadable (dir : List String) (e : FileError) : String :=
  let path := FileTree.absolute dir
  s!"Skipping unreadable entry: {path}: IO error for operation on {path}: {e.message}"

section Visit

variable {σ : Type} (l : Locator) (tree : σ → FileTree)
  (visit : List String → σ → Logged (Progress σ))

/-- Visits the files among the entries of a directory, and with `descend` its directories. -/
def visitEntries (descend : IgnoreRules → List String → σ → Logged (Progress σ))
    (rules : IgnoreRules) (dir : List String) :
    List (String × Entry) → σ → Logged (Progress σ)
  | [], s => return .going s
  | (name, e) :: rest, s => do
    let place := dir ++ [name]
    let next ←
      if l.skips rules place name e.isDir then pure (.going s)
      else match e with
        | .dir _ => descend rules place s
        | .file _ => if l.wants name then visit place s else pure (.going s)
        | .link _ => pure (.going s)
    match next with
    | .going s => visitEntries descend rules dir rest s
    | .ended s => return .ended s

/-- Visits the files below a directory; `depth` bounds the directories inside each other. -/
def visitDir : (depth : Nat) → IgnoreRules → List String → σ → Logged (Progress σ)
  | 0, _, _, s => return .going s
  | depth + 1, rules, dir, s =>
    match (tree s).entry (FileTree.absolute dir) with
    | .ok (.dir children) =>
      visitEntries l visit (visitDir depth) (l.enter (tree s) rules dir) dir (sorted children) s
    | .ok _ => do
      Logged.warn (unreadable dir .notDirectory)
      return .going s
    | .error e => do
      Logged.warn (unreadable dir e)
      return .going s

/-- Visits all files. -/
def visitAll (s : σ) : Logged (Progress σ) := do
  let t := tree s
  let problems := l.outerProblems t
  if !problems.isEmpty then
    Logged.warn ("Skipping unreadable entry: " ++ "\n".intercalate problems)
  visitDir l tree visit (t.root.height + 1) (l.outerRules t) l.root s

end Visit

/-- The places of all files of a tree that does not change. -/
def files (l : Locator) (t : FileTree) : Logged (List (List String)) := do
  let found ← l.visitAll (fun _ => t) (fun place s => pure (.going (place :: s))) []
  return found.state.reverse

/-- The path of a place as seen from the root, with slashes between its parts. -/
def relativePath (l : Locator) (place : List String) : String :=
  Path.slashed ("/".intercalate (place.drop l.root.length))

/-- Parts of a path without those at the start that do not count. -/
def dropIdle (parts : List String) : List String := parts.dropWhile fun p => p == "" || p == "."

/-- The parts of a path after some names. -/
def afterNames? : List String → List String → Option (List String)
  | [], parts => some parts
  | n :: ns, parts => match dropIdle parts with
    | p :: rest => if p == n then afterNames? ns rest else none
    | [] => none

/-- A path as seen from the root, if it is below it, and else the path itself. -/
def relativeTo (l : Locator) (path : String) : String :=
  let parts := Text.splitAll '/' path
  let rest := if FileTree.isAbsolute path then afterNames? l.root parts else none
  Path.slashed (match rest with
    | some rest => "/".intercalate (dropIdle (dropIdle rest).reverse).reverse
    | none => path)

end Locator

end CodeGraph
