import CodeGraph.Text.Blank

/-! # File trees

The files that a program can see: directories, regular files and symbolic links, with a directory in
which relative paths begin. Paths are followed step by step; a link is replaced by its target, which
begins at the directory of the link unless it is absolute. -/

namespace CodeGraph

/-- Something in a directory. -/
inductive Entry where
  | file (bytes : ByteArray)
  | dir (children : List (String × Entry))
  | link (target : String)
  deriving Inhabited

/-- Why something cannot be done with a path. -/
inductive FileError where
  | notFound
  | notDirectory
  | isDirectory
  | tooManyLinks
  /-- The file may not be read. -/
  | notPermitted
  /-- The bytes of a file are not text. -/
  | notText
  deriving BEq, DecidableEq, Repr, Inhabited

/-- The error in words. -/
def FileError.message : FileError → String
  | notFound => "No such file or directory (os error 2)"
  | notPermitted => "Permission denied (os error 13)"
  | notDirectory => "Not a directory (os error 20)"
  | isDirectory => "Is a directory (os error 21)"
  | tooManyLinks => "Too many levels of symbolic links (os error 40)"
  | notText => "stream did not contain valid UTF-8"

namespace Entry

/-- Whether an entry is a regular file. -/
def isFile : Entry → Bool
  | file _ => true
  | _ => false

/-- Whether an entry is a directory. -/
def isDir : Entry → Bool
  | dir _ => true
  | _ => false

/-- The entry of a name in a directory. -/
def child? (name : String) : Entry → Option Entry
  | dir children => children.lookup name
  | _ => none

/-- The entry reached by names, one after the other, without following links. -/
def at? : List String → Entry → Option Entry
  | [], e => some e
  | name :: names, e => (e.child? name).bind (at? names)

/-- Puts an entry under a name, in place of what was there. -/
def put (name : String) (e : Entry) : List (String × Entry) → List (String × Entry)
  | [] => [(name, e)]
  | (n, old) :: rest => if n == name then (name, e) :: rest else (n, old) :: put name e rest

/-- Changes the entry reached by names; directories on the way are made, in place of what is there
if that is no directory. The change is given what was there. -/
def modifyAt (change : Option Entry → Option Entry) : List String → Option Entry → Option Entry
  | [], e => change e
  | name :: names, e =>
    let children := match e with
      | some (dir children) => children
      | _ => []
    match modifyAt change names (children.lookup name) with
    | some new => some (dir (put name new children))
    | none => some (dir (children.filter (·.1 != name)))

mutual
/-- Number of directories inside each other, at most. -/
def height : Entry → Nat
  | dir children => heightOfAll children + 1
  | _ => 0

/-- The largest height of some entries. -/
def heightOfAll : List (String × Entry) → Nat
  | [] => 0
  | (_, e) :: rest => max (height e) (heightOfAll rest)
end

end Entry

/-- All files, and the directory in which relative paths begin. -/
structure FileTree where
  root : Entry := .dir []
  workDir : List String := []
  /-- The places of files that may not be read. -/
  locked : List (List String) := []
  /-- Paths whose place cannot be told though they lead somewhere, and why: such as a path from a
  working directory that has been removed. -/
  unnamed : List (String × FileError) := []
  deriving Inhabited

namespace FileTree

/-- The names in a path. -/
def names (path : String) : List String := (Text.splitAll '/' path).filter fun n => n != "" && n != "."

/-- Whether a path begins at the root. -/
def isAbsolute (path : String) : Bool := path.toList.head? == some '/'

/-- Whether a path can only lead to a directory. -/
def endsInDirectory (path : String) : Bool :=
  match (Text.splitAll '/' path).reverse with
  | last :: _ :: _ => last == "" || last == "."
  | [last] => last == "."
  | [] => false

/-- The directory at which a path begins. -/
def base (t : FileTree) (path : String) : List String := if isAbsolute path then [] else t.workDir

/-- Links that are followed in one path. -/
def maxLinks : Nat := 40

/-- The place that names lead to from a directory, all links followed except the last if
`followLast` is not set. Only what is there is reached. -/
def walk (root : Entry) (followLast : Bool) (links : Nat) (here : List String) :
    List String → Except FileError (List String)
  | [] => .ok here
  | name :: rest =>
    match root.at? here with
    | some (.dir children) =>
      if name == ".." then walk root followLast links here.dropLast rest
      else match children.lookup name with
      | none => .error .notFound
      | some (.link target) =>
        if rest.isEmpty && !followLast then .ok (here ++ [name])
        else match links with
          | 0 => .error .tooManyLinks
          | links + 1 =>
            walk root followLast links (if isAbsolute target then [] else here) (names target ++ rest)
      | some _ => walk root followLast links (here ++ [name]) rest
    | some _ => .error .notDirectory
    | none => .error .notFound
termination_by ns => (links, ns.length)

/-- The place of a path, given by the names from the root; no name on the way is a link. -/
def resolve (t : FileTree) (path : String) : Except FileError (List String) :=
  if path.isEmpty then .error .notFound
  else do
    let place ← walk t.root true maxLinks (t.base path) (names path)
    match t.root.at? place with
    | some (.dir _) => .ok place
    | some _ => if endsInDirectory path then .error .notDirectory else .ok place
    | none => .error .notFound

/-- The place of a path, where it can be told. -/
def canonicalize (t : FileTree) (path : String) : Except FileError (List String) :=
  match t.unnamed.lookup path with
  | some e => .error e
  | none => t.resolve path

/-- What is at a path. -/
def entry (t : FileTree) (path : String) : Except FileError Entry := do
  let place ← t.resolve path
  match t.root.at? place with
  | some e => .ok e
  | none => .error .notFound

/-- Whether a regular file is at a path. -/
def isFile (t : FileTree) (path : String) : Bool :=
  match t.entry path with
  | .ok e => e.isFile
  | .error _ => false

/-- Whether a directory is at a path. -/
def isDir (t : FileTree) (path : String) : Bool :=
  match t.entry path with
  | .ok e => e.isDir
  | .error _ => false

/-- The bytes of the file at a path. -/
def read (t : FileTree) (path : String) : Except FileError ByteArray := do
  let place ← t.resolve path
  match t.root.at? place with
  | some (.file bytes) => if t.locked.contains place then .error .notPermitted else .ok bytes
  | some (.dir _) => .error .isDirectory
  | _ => .error .notFound

/-- The text of the file at a path. -/
def readText (t : FileTree) (path : String) : Except FileError String := do
  match String.fromUTF8? (← t.read path) with
  | some s => .ok s
  | none => .error .notText

/-- An absolute path, given by its names. -/
def absolute (place : List String) : String := "/" ++ "/".intercalate place

/-- Puts an entry at a place, in place of what is there; directories on the way are made. -/
def put (t : FileTree) (place : List String) (e : Entry) : FileTree :=
  { t with root := (Entry.modifyAt (fun _ => some e) place (some t.root)).getD (.dir []) }

/-- Takes away what is at a place. -/
def erase (t : FileTree) (place : List String) : FileTree :=
  match t.root.at? place with
  | none => t
  | some _ => { t with root := (Entry.modifyAt (fun _ => none) place (some t.root)).getD (.dir []) }

/-- The place at which a file is written, where names lead from a directory. It need not be there,
but the directory around it must be. All links are followed, the last one as well, and they are
counted as in `walk`. -/
def writePlace (root : Entry) (links : Nat) (here : List String) :
    List String → Except FileError (List String)
  | [] => .error .isDirectory
  | name :: rest =>
    match root.at? here with
    | some (.dir children) =>
      if name == ".." then writePlace root links here.dropLast rest
      else match children.lookup name with
      | none => if rest.isEmpty then .ok (here ++ [name]) else .error .notFound
      | some (.link target) => match links with
        | 0 => .error .tooManyLinks
        | links + 1 =>
          writePlace root links (if isAbsolute target then [] else here) (names target ++ rest)
      | some (.file _) => if rest.isEmpty then .ok (here ++ [name]) else .error .notDirectory
      | some (.dir _) => writePlace root links (here ++ [name]) rest
    | some _ => .error .notDirectory
    | none => .error .notFound
termination_by ns => (links, ns.length)

/-- Writes a file at a path. -/
def write (t : FileTree) (path : String) (bytes : ByteArray) : Except FileError FileTree :=
  if path.isEmpty then .error .notFound
  else do
    let place ← writePlace t.root maxLinks (t.base path) (names path)
    if endsInDirectory path then .error .isDirectory
    else .ok (t.put place (.file bytes))

end FileTree

end CodeGraph
