import CodeGraph.Json.Token

/-! # Reading JSON

A value is read from its tokens one after the other. What has been read of the arrays and objects
that are still open stands on a stack, innermost first; a text that opens too many of them is
refused. -/

namespace CodeGraph.Json

/-- An array or object that is still open; its parts so far stand in reverse. -/
inductive OpenPart where
  | array (items : List Json)
  /-- An object, with the name of the field that is being read. -/
  | object (fields : List (String × Json)) (key : String)
  deriving Inhabited

/-- What may come next. -/
inductive Expecting where
  | value
  /-- A value, or the end of the array that has just been opened. -/
  | firstItem
  /-- The name of a field, or the end of the object that has just been opened. -/
  | firstKey (fields : List (String × Json))
  | key (fields : List (String × Json))
  | colon
  /-- What follows a value that is now complete. -/
  | after (v : Json)
  deriving Inhabited

/-- A place in the reading of a value. -/
structure Reading where
  parts : List OpenPart := []
  expecting : Expecting := .value
  deriving Inhabited

namespace Reading

/-- Arrays and objects that may be open at once. -/
def maxDepth : Nat := 127

/-- Opens an array or object. -/
def push (r : Reading) (parts : List OpenPart) (expecting : Expecting) : Option Reading :=
  if r.parts.length < maxDepth then some ⟨parts, expecting⟩ else none

/-- Begins a value; one without parts is complete at once. -/
def openValue (r : Reading) : Token → Option Reading
  | .null => some { r with expecting := .after .null }
  | .bool b => some { r with expecting := .after (.bool b) }
  | .number n => some { r with expecting := .after (.number n) }
  | .string s => some { r with expecting := .after (.string s) }
  | .arrayOpen => r.push (.array [] :: r.parts) .firstItem
  | .objectOpen => r.push r.parts (.firstKey [])
  | _ => none

/-- Goes on after a complete value. -/
def afterValue (r : Reading) (v : Json) : Token → Option Reading
  | .comma => match r.parts with
    | .array items :: rest => some ⟨.array (v :: items) :: rest, .value⟩
    | .object fields key :: rest => some ⟨rest, .key ((key, v) :: fields)⟩
    | [] => none
  | .arrayClose => match r.parts with
    | .array items :: rest => some ⟨rest, .after (.array (v :: items).reverse)⟩
    | _ => none
  | .objectClose => match r.parts with
    | .object fields key :: rest => some ⟨rest, .after (.object ((key, v) :: fields).reverse)⟩
    | _ => none
  | _ => none

/-- One token. -/
def step (r : Reading) (t : Token) : Option Reading :=
  match r.expecting with
  | .value => r.openValue t
  | .firstItem => match t, r.parts with
    | .arrayClose, .array _ :: rest => some ⟨rest, .after (.array [])⟩
    | _, _ => r.openValue t
  | .firstKey fields => match t with
    | .objectClose => some { r with expecting := .after (.object fields.reverse) }
    | .string k => some ⟨.object fields k :: r.parts, .colon⟩
    | _ => none
  | .key fields => match t with
    | .string k => some ⟨.object fields k :: r.parts, .colon⟩
    | _ => none
  | .colon => match t with
    | .colon => some { r with expecting := .value }
    | _ => none
  | .after v => r.afterValue v t

/-- The value, if the reading is complete. -/
def finish? (r : Reading) : Option Json :=
  match r.parts, r.expecting with
  | [], .after v => some v
  | _, _ => none

end Reading

/-- The value that a text writes, if it writes one and nothing else. -/
def parse? (text : String) : Option Json := do
  let tokens ← Token.ofText? text
  let reading ← tokens.foldlM Reading.step {}
  reading.finish?

end CodeGraph.Json
