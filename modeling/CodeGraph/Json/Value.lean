/-! # JSON values

Values as they are exchanged with other programs. The fields of an object keep their order. A number
without fraction and exponent is a whole number; of every other number the text is kept. -/

namespace CodeGraph

/-- A number. -/
inductive JsonNumber where
  | whole (n : Int)
  /-- A number with a fraction or an exponent, as it is written. -/
  | decimal (text : String)
  deriving BEq, DecidableEq, Repr, Inhabited

/-- A JSON value. -/
inductive Json where
  | null
  | bool (b : Bool)
  | number (n : JsonNumber)
  | string (s : String)
  | array (items : List Json)
  | object (fields : List (String × Json))
  deriving BEq, Repr, Inhabited

namespace Json

/-- A natural number. -/
def nat (n : Nat) : Json := .number (.whole n)

/-- A list of texts. -/
def strings (ss : List String) : Json := .array (ss.map .string)

/-- A text that may be missing. -/
def optString : Option String → Json
  | some s => .string s
  | none => .null

/-- The value of a field; of two fields of one name the later counts. -/
def field? (j : Json) (name : String) : Option Json :=
  match j with
  | .object fields => (fields.reverse.find? (·.1 == name)).map (·.2)
  | _ => none

/-- The text of a value, if it is one. -/
def asString? : Json → Option String
  | .string s => some s
  | _ => none

/-- Numbers that fit in 64 bits without a sign. -/
def wordSize : Nat := Nat.pow 2 64

/-- The number of a value, if it is a whole one of 64 bits without a sign. -/
def asNat? : Json → Option Nat
  | .number (.whole n) => if 0 ≤ n && n < wordSize then some n.toNat else none
  | _ => none

/-- The items of a value, if it is an array. -/
def asArray? : Json → Option (List Json)
  | .array items => some items
  | _ => none

/-- The text of a field. -/
def stringField? (j : Json) (name : String) : Option String := (j.field? name).bind asString?

/-- The word of a value: a text, or the name of its only field if that is null. -/
def asWord? : Json → Option String
  | .string s => some s
  | .object [(name, .null)] => some name
  | _ => none

/-- A record as an object: given as one, or by the list of its fields in order. -/
def asRecord? (names : List String) : Json → Option Json
  | .object fields => some (.object fields)
  | .array items =>
    if items.length == names.length then some (.object (names.zip items)) else none
  | _ => none

/-- A record of one of several kinds: the word that tells the kind, and its fields. The kind is
named in the field `tag`, or comes first in the list of the fields. -/
def asTagged? (tag : String) (names : String → Option (List String)) (j : Json) :
    Option (String × Json) :=
  match j with
  | .object _ => (j.stringField? tag).map fun kind => (kind, j)
  | .array (.string kind :: items) => do
    let record ← asRecord? (← names kind) (.array items)
    return (kind, record)
  | _ => none

/-- The number of a field. -/
def natField? (j : Json) (name : String) : Option Nat := (j.field? name).bind asNat?

/-- The text of a field that may be missing or null. The result is `none` for anything else. -/
def optStringField? (j : Json) (name : String) : Option (Option String) :=
  match j.field? name with
  | none | some .null => some none
  | some (.string s) => some (some s)
  | some _ => none

/-- The items of a field, each of them decoded. -/
def listField? {α : Type} (j : Json) (name : String) (decode : Json → Option α) : Option (List α) :=
  ((j.field? name).bind asArray?).bind fun items => items.mapM decode

end Json

end CodeGraph
