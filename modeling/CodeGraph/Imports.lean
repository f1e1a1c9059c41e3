import CodeGraph.Language
import CodeGraph.Log
import CodeGraph.Text.Blank
import CodeGraph.Text.Quoted

/-! # Import resolution

From the text by which a file imports a module to the file that is meant. The text is cleaned and
read as a path by the rules of its language; the files that the path can stand for are then tried
one after the other. A path that leaves the repository stands for none. -/

namespace CodeGraph.Imports

/-- The text of an import without white space and semicolons around it and without a query or
fragment; `none` if nothing is left. -/
def cleanSpecifier (raw : String) : Option String :=
  let cs := Text.trim (Text.trimEndWhere (· == ';') (Text.trim raw))
  let cs := Text.trim (String.ofList (cs.toList.takeWhile fun c => c != '?' && c != '#'))
  if cs.isEmpty then none else some cs

/-- The directory of a file. -/
def parentDir (path : String) : String :=
  match Text.splitLast? '/' path with
  | some (dir, _) => dir
  | none => ""

/-- A path below a directory, which may be the root. -/
def below (dir path : String) : String := if dir.isEmpty then path else dir ++ "/" ++ path

/-- Whether a text names a module by its place relative to the importing file. -/
def isRelative (specifier : String) : Bool :=
  specifier == "." || specifier == ".." || specifier.startsWith "./" || specifier.startsWith "../"

/-- The path that a text means in JavaScript or TypeScript. -/
def scriptPath (importer specifier : String) : String :=
  if isRelative specifier then below (parentDir importer) specifier
  else Text.trimStartWhere (· == '/') specifier

/-- Number of dots at the start of a text. -/
def leadingDots (specifier : String) : Nat := (specifier.toList.takeWhile (· == '.')).length

/-- The text after the dots at its start. -/
def moduleName (specifier : String) : String := Text.trimStartWhere (· == '.') specifier

/-- The path that a text means in Python: each dot after the first at the start goes up one
directory, and the dots in the name stand for slashes. -/
def pythonPath (importer specifier : String) : String :=
  let dots := leadingDots specifier
  let name := (moduleName specifier).map fun c => if c == '.' then '/' else c
  if dots == 0 then name
  else
    let dir := parentDir importer
    "/".intercalate ((if dir.isEmpty then [] else [dir]) ++ List.replicate (dots - 1) ".."
      ++ (if name.isEmpty then [] else [name]))

/-- The module that a name in Python is imported from, if the text can be read as one. -/
def pythonParent (specifier : String) : Option String :=
  let dots := specifier.toList.takeWhile (· == '.')
  let name := moduleName specifier
  if name.isEmpty then none
  else
    let parent := match Text.splitLast? '.' name with
      | some (head, _) => String.ofList dots ++ head
      | none => String.ofList dots
    if parent.isEmpty then none else some parent

/-- Takes the steps of a path; the names kept stand in reverse. -/
def takeSteps (kept : List String) : List String → Option (List String)
  | [] => some kept.reverse
  | part :: parts =>
    if part == "" || part == "." then takeSteps kept parts
    else if part == ".." then match kept with
      | _ :: kept => takeSteps kept parts
      | [] => none
    else takeSteps (part :: kept) parts

/-- A path without idle steps; `none` if it leaves the root. -/
def normalize (path : String) : Option String :=
  (takeSteps [] (Text.splitAll '/' path)).map fun parts => "/".intercalate parts

/-- The files that a path can stand for, in the order in which they are tried: the path itself, the
path with each extension, and what stands for it if it is a directory. -/
def candidates (path : String) : List String :=
  (if path.isEmpty then [] else path :: sourceExtensions.map fun ext => path ++ "." ++ ext)
    ++ (sourceExtensions.filter (· != "py")).map (fun ext => below path ("index." ++ ext))
    ++ [below path "__init__.py"]

/-- The first file that a path can stand for. -/
def probe (isFile : String → Bool) (path : String) : Option String :=
  (candidates path).find? isFile

/-- The path that a text means. -/
def meant (language : Language) (importer specifier : String) : String :=
  match language with
  | .python => pythonPath importer specifier
  | .javaScript | .typeScript => scriptPath importer specifier

/-- The file of the module from which a name is imported, where the language has such imports. -/
def probeParent (isFile : String → Bool) (language : Language) (importer specifier : String) :
    Option String :=
  match language with
  | .python => do
    let parent ← pythonParent specifier
    probe isFile (← normalize (pythonPath importer parent))
  | .javaScript | .typeScript => none

/-- The file that an import means; `isFile` says which paths below the root are files. -/
def resolve (isFile : String → Bool) (importer specifier : String) (language : Language) :
    Logged (Option String) :=
  match cleanSpecifier specifier with
  | none => return none
  | some specifier => match normalize (meant language importer specifier) with
    | none => return none
    | some path =>
      match (probe isFile path).or (probeParent isFile language importer specifier) with
      | some target => return some target
      | none => do
        Logged.debug s!"{importer}: unresolved import {Text.quoted specifier}"
        return none

end CodeGraph.Imports
