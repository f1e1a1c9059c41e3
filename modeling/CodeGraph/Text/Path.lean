import CodeGraph.Text.Blank

/-! # Paths

Paths are texts with parts between slashes. Empty parts and parts that are a single dot do not
count, except a dot at the very start. -/

namespace CodeGraph.Path

/-- The parts of a path that count: a leading dot, names and steps up. -/
def parts (path : String) : List String :=
  match Text.splitAll '/' path with
  | [] => []
  | first :: rest =>
    let rest := rest.filter fun p => p != "" && p != "."
    if first == "" then rest else first :: rest

/-- The last part, if it is a name. -/
def fileName? (path : String) : Option String :=
  match (parts path).getLast? with
  | some p => if p == "." || p == ".." then none else some p
  | none => none

/-- What follows the last dot of a name; a dot at the start of the name does not count. -/
def extensionOfName? (name : String) : Option String :=
  match (Text.splitAll '.' name).reverse with
  | last :: before => if before.isEmpty || before == [""] then none else some last
  | [] => none

/-- The extension of the last part of a path. -/
def extension? (path : String) : Option String := (fileName? path).bind extensionOfName?

/-- The path with slashes in place of backslashes. -/
def slashed (path : String) : String := path.map fun c => if c == '\\' then '/' else c

/-- What follows the last slash. -/
def baseName (path : String) : String := ((Text.splitAll '/' path).getLast?).getD path

end CodeGraph.Path
