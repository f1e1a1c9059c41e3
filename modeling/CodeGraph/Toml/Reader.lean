import CodeGraph.Toml.Number

/-! # Reading TOML

A text is read line by line into a table. A header names the table to which the lines after it
belong. What has been said of a table cannot be said again: a table has one header at most, a key
one value, and a table between braces is complete. -/

namespace CodeGraph.Toml

/-! ## Adding to tables -/

/-- Puts a value in place of the one under a key. -/
def replaceField (key : String) (v : Toml) (fields : Fields) : Fields :=
  fields.map fun f => if f.1 == key then (key, v) else f

/-- Adds a value under a key that leads through the tables of a path. A table on the way is made if
there is none; it must not be one that a header names or braces complete. -/
def addValue (key : String) (v : Toml) : List String → Fields → Option Fields
  | [], fields => if (fields.lookup key).isSome then none else some (fields ++ [(key, v)])
  | step :: path, fields =>
    match fields.lookup step with
    | none => (addValue key v path []).map fun inner => fields ++ [(step, .table .dotted inner)]
    | some (.table .dotted inner) =>
      (addValue key v path inner).map fun inner => replaceField step (.table .dotted inner) fields
    | some (.table .passing inner) =>
      if path.isEmpty then none
      else (addValue key v path inner).map fun inner =>
        replaceField step (.table .passing inner) fields
    | some (.tables (last :: others)) =>
      if path.isEmpty then none
      else (addValue key v path last).map fun last =>
        replaceField step (.tables (last :: others)) fields
    | some _ => none

/-- Changes the table that a path leads to. A table on the way is made if there is none. -/
def inside (change : Fields → Option Fields) : List String → Fields → Option Fields
  | [], fields => change fields
  | step :: path, fields =>
    match fields.lookup step with
    | none => (inside change path []).map fun inner => fields ++ [(step, .table .passing inner)]
    | some (.table origin inner) =>
      if origin == .braces then none
      else (inside change path inner).map fun inner =>
        replaceField step (.table origin inner) fields
    | some (.tables (last :: others)) =>
      (inside change path last).map fun last => replaceField step (.tables (last :: others)) fields
    | some _ => none

/-- Begins the table of a header. It may have been passed through before, and no more than that. -/
def openTable (key : String) (fields : Fields) : Option Fields :=
  match fields.lookup key with
  | none => some (fields ++ [(key, .table .header [])])
  | some (.table .passing inner) => some (replaceField key (.table .header inner) fields)
  | some _ => none

/-- Begins a table beside others of the same header. -/
def openNext (key : String) (fields : Fields) : Option Fields :=
  match fields.lookup key with
  | none => some (fields ++ [(key, .tables [[]])])
  | some (.tables items) => some (replaceField key (.tables ([] :: items)) fields)
  | some _ => none

/-! ## Keys and values -/

/-- The text without space in front. -/
def dropBlanks (cs : List Char) : List Char := cs.dropWhile isBlank

/-- The text after the characters of a comment. -/
def dropComment : List Char → List Char
  | '#' :: rest => rest.dropWhile isPlain
  | cs => cs

/-- The text without space, line ends and comments in front. -/
def dropGap : (fuel : Nat) → List Char → List Char
  | 0, cs => cs
  | fuel + 1, cs =>
    match dropBlanks cs with
    | '#' :: rest => dropGap fuel (rest.dropWhile isPlain)
    | cs => match newline? cs with
      | some rest => dropGap fuel rest
      | none => cs

/-- What is left after the end of a line, in front of which a comment may stand. -/
def finishLine (cs : List Char) : Option (List Char) :=
  match dropComment (dropBlanks cs) with
  | [] => some []
  | cs => newline? cs

/-- A character of a key without quotes. -/
def isKeyChar (c : Char) : Bool := c.isAlphanum || c == '-' || c == '_'

/-- One word of a key. -/
def keyWord : List Char → Option (String × List Char)
  | '"' :: rest => (basicText rest).map fun r => (String.ofList r.1, r.2)
  | '\x27' :: rest => (literalText rest).map fun r => (String.ofList r.1, r.2)
  | cs => match cs.takeWhile isKeyChar with
    | [] => none
    | word => some (String.ofList word, cs.dropWhile isKeyChar)

/-- A key: words with dots between them. The result is the path to the last word and that word. -/
def key : (fuel : Nat) → List Char → Option (List String × String × List Char)
  | 0, _ => none
  | fuel + 1, cs => do
    let (word, cs) ← keyWord (dropBlanks cs)
    match dropBlanks cs with
    | '.' :: cs => do
      let (path, last, cs) ← key fuel cs
      return (word :: path, last, cs)
    | cs => return ([], word, cs)

/-- What reads a value from the front of a text. -/
abbrev ValueReader := List Char → Option (Toml × List Char)

/-- The items of an array, after its bracket. -/
def arrayItems (read : ValueReader) : (fuel : Nat) → List Char → Option (List Toml × List Char)
  | 0, _ => none
  | fuel + 1, cs =>
    match dropGap cs.length cs with
    | ']' :: rest => some ([], rest)
    | cs => do
      let (v, cs) ← read cs
      match dropGap cs.length cs with
      | ',' :: cs => do
        let (vs, cs) ← arrayItems read fuel cs
        return (v :: vs, cs)
      | ']' :: cs => return ([v], cs)
      | _ => none

/-- A key and its value. -/
def assignment (read : ValueReader) (cs : List Char) :
    Option (List String × String × Toml × List Char) := do
  let (path, last, cs) ← key cs.length cs
  match cs with
  | '=' :: cs =>
    let (v, cs) ← read (dropBlanks cs)
    return (path, last, v, cs)
  | _ => none

/-- The fields of a table between braces, of which there is at least one. -/
def braceFields (read : ValueReader) :
    (fuel : Nat) → Fields → List Char → Option (Fields × List Char)
  | 0, _, _ => none
  | fuel + 1, fields, cs => do
    let (path, last, v, cs) ← assignment read cs
    let fields ← addValue last v path fields
    match dropBlanks cs with
    | ',' :: cs => braceFields read fuel fields cs
    | '\x7d' :: cs => return (fields, cs)
    | _ => none

/-- How deep arrays and tables between braces can stand inside each other. -/
def maxDepth : Nat := 79

/-- A value. -/
def value : (depth : Nat) → ValueReader
  | depth, cs =>
    match cs with
    | 't' :: 'r' :: 'u' :: 'e' :: rest => some (.boolean true, rest)
    | 'f' :: 'a' :: 'l' :: 's' :: 'e' :: rest => some (.boolean false, rest)
    | '[' :: rest => match depth with
      | 0 => none
      | depth + 1 => (arrayItems (value depth) (rest.length + 1) rest).map fun r => (.array r.1, r.2)
    | '\x7b' :: rest => match depth with
      | 0 => none
      | depth + 1 => match dropBlanks rest with
        | '\x7d' :: rest => some (.table .braces [], rest)
        | _ => (braceFields (value depth) (rest.length + 1) [] rest).map fun r =>
          (.table .braces r.1, r.2)
    | c :: _ =>
      if c == '"' || c == '\x27' then (text cs).map fun r => (.string r.1, r.2)
      else if c.isDigit || c == '+' || c == '-' || c == 'i' || c == 'n' then numberOrTime cs
      else none
    | [] => none

/-! ## Documents -/

/-- A text that has been read in part: its tables, and the path of the table to which the next line
belongs. -/
structure Draft where
  fields : Fields := []
  current : List String := []
  deriving Inhabited

/-- What closes a header. -/
def closing (next : Bool) : List Char → Option (List Char)
  | ']' :: ']' :: rest => some (if next then rest else ']' :: rest)
  | ']' :: rest => if next then none else some rest
  | _ => none

/-- A header after its first bracket, or its first two if `next`. -/
def header (next : Bool) (d : Draft) (cs : List Char) : Option (Draft × List Char) := do
  let (path, last, cs) ← key cs.length cs
  let rest ← finishLine (← closing next cs)
  let fields ← inside (if next then openNext last else openTable last) path d.fields
  return (⟨fields, path ++ [last]⟩, rest)

/-- A line with a key and a value. -/
def line (d : Draft) (cs : List Char) : Option (Draft × List Char) := do
  let (path, last, v, cs) ← assignment (value maxDepth) cs
  let rest ← finishLine cs
  let fields ← inside (addValue last v path) d.current d.fields
  return ({ d with fields }, rest)

/-- Reads a text to its end. -/
def lines : (fuel : Nat) → Draft → List Char → Option Draft
  | 0, _, _ => none
  | fuel + 1, d, cs =>
    match dropBlanks cs with
    | [] => some d
    | '[' :: '[' :: rest => (header true d rest).bind fun r => lines fuel r.1 r.2
    | '[' :: rest => (header false d rest).bind fun r => lines fuel r.1 r.2
    | '#' :: rest => (finishLine ('#' :: rest)).bind (lines fuel d)
    | cs => match newline? cs with
      | some rest => lines fuel d rest
      | none => (line d cs).bind fun r => lines fuel r.1 r.2

/-- The table that a text gives, or `none` if the text is not in order. A byte order mark in front
of it does not count. -/
def parse? (text : String) : Option Toml :=
  let cs := match text.toList with
    | '\uFEFF' :: cs => cs
    | cs => cs
  (lines (cs.length + 1) {} cs).map fun d => .table .header d.fields

end CodeGraph.Toml
