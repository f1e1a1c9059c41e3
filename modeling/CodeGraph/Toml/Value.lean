/-! # TOML values

Values of settings files. A table knows how it came about, because that decides what may still be
added to it while a text is read. -/

namespace CodeGraph

/-- How a table came about. -/
inductive TableOrigin where
  /-- Written between braces; nothing can be added to it. -/
  | braces
  /-- Named by a header, or the whole text. -/
  | header
  /-- Passed through by a header that names a table inside it. -/
  | passing
  /-- Passed through by a dotted key. -/
  | dotted
  deriving BEq, DecidableEq, Repr, Inhabited

/-- A TOML value. -/
inductive Toml where
  | string (s : String)
  | integer (n : Int)
  /-- A number with a fraction or an exponent, an infinity or no number, as it is written. -/
  | float (text : String)
  | boolean (b : Bool)
  /-- A date, a time or both, as it is written. -/
  | dateTime (text : String)
  | array (items : List Toml)
  | table (origin : TableOrigin) (fields : List (String × Toml))
  /-- Tables under one header, the last one first. -/
  | tables (items : List (List (String × Toml)))
  deriving Repr, Inhabited

namespace Toml

/-- The fields of a table. -/
abbrev Fields := List (String × Toml)

/-- The text of a value, if it is one. -/
def asString? : Toml → Option String
  | string s => some s
  | _ => none

/-- The truth value of a value, if it is one. -/
def asBool? : Toml → Option Bool
  | boolean b => some b
  | _ => none

/-- The number of a value, if it is a whole one from zero to below a limit. -/
def asNatBelow? (limit : Nat) : Toml → Option Nat
  | integer n => if 0 ≤ n && n < limit then some n.toNat else none
  | _ => none

/-- The items of a value, if it is an array. -/
def asArray? : Toml → Option (List Toml)
  | array items => some items
  | tables items => some (items.reverse.map (table .header))
  | _ => none

/-- The fields of a value as a record with named fields: a table with no other names, or an array
that gives the first of them in order. -/
def asRecord? (names : List String) : Toml → Option Fields
  | table _ fields => if fields.all fun f => names.contains f.1 then some fields else none
  | v => v.asArray?.map fun items => names.zip items

/-- The value of a field that may be missing, decoded. The result is `none` if it is there and
cannot be decoded. -/
def optField? {α : Type} (fields : Fields) (name : String) (decode : Toml → Option α) :
    Option (Option α) :=
  match fields.lookup name with
  | some v => (decode v).map some
  | none => some none

end Toml

end CodeGraph
