import CodeGraph.Json.Value
import CodeGraph.Text.Digits

/-! # JSON tokens

The text of a value cut into tokens, one character after the other. The mode says what the text
before the next character has begun: nothing, a word, a number, or a string with or without an
unfinished escape. -/

namespace CodeGraph.Json

/-- A token. -/
inductive Token where
  | null
  | bool (b : Bool)
  | number (n : JsonNumber)
  | string (s : String)
  | arrayOpen
  | arrayClose
  | objectOpen
  | objectClose
  | comma
  | colon
  deriving BEq, DecidableEq, Repr, Inhabited

namespace Token

/-- Splits a run of digits from what follows. -/
def digits (cs : List Char) : List Char × List Char := cs.span Char.isDigit

/-- The value of a run of digits. -/
def digitsValue (cs : List Char) : Nat := cs.foldl (fun n c => 10 * n + (c.toNat - 48)) 0

/-- Whether `m * 10 ^ e` is too large for a floating-point number of 64 bits. -/
def isTooLarge (m : Nat) (e : Int) : Bool :=
  if m == 0 then false
  else
    let magnitude : Int := (Nat.toDigits 10 m).length + e
    if magnitude > 310 then true
    else if magnitude < 300 then false
    else
      let bound := Nat.pow 2 1024 - Nat.pow 2 970
      if e ≥ 0 then m * Nat.pow 10 e.toNat ≥ bound else m ≥ bound * Nat.pow 10 (-e).toNat

/-- The whole part, digits of the fraction and exponent of a number without its sign. -/
def parts? (cs : List Char) : Option (List Char × Option (List Char) × Option Int) := do
  let (whole, rest) := digits cs
  if whole.isEmpty || (whole.length > 1 && whole.head? == some '0') then none
  let (fraction, rest) ← match rest with
    | '.' :: rest =>
      let (ds, rest) := digits rest
      if ds.isEmpty then none else some (some ds, rest)
    | _ => some (none, rest)
  match rest with
  | [] => return (whole, fraction, none)
  | c :: rest =>
    if c != 'e' && c != 'E' then none
    let (negative, rest) := match rest with
      | '-' :: rest => (true, rest)
      | '+' :: rest => (false, rest)
      | _ => (false, rest)
    let (ds, rest) := digits rest
    if ds.isEmpty || !rest.isEmpty then none
    let n : Int := digitsValue ds
    return (whole, fraction, some (if negative then -n else n))

/-- The number that a run of characters writes. -/
def number? (cs : List Char) : Option JsonNumber := do
  let (negative, unsigned) := match cs with
    | '-' :: rest => (true, rest)
    | _ => (false, cs)
  let (whole, fraction, exponent) ← parts? unsigned
  let ds := whole ++ fraction.getD []
  let m := digitsValue ds
  if isTooLarge m (exponent.getD 0 - (fraction.getD []).length) then none
  if fraction.isNone && exponent.isNone && !(negative && m == 0) then
    return .whole (if negative then -(m : Int) else m)
  else return .decimal (String.ofList cs)

/-- The token that a word writes. -/
def word? (cs : List Char) : Option Token :=
  match String.ofList cs with
  | "null" => some .null
  | "true" => some (.bool true)
  | "false" => some (.bool false)
  | _ => none

/-- The token that a sign writes. -/
def sign? : Char → Option Token
  | '[' => some arrayOpen
  | ']' => some arrayClose
  | '\x7b' => some objectOpen
  | '\x7d' => some objectClose
  | ',' => some comma
  | ':' => some colon
  | _ => none

/-- The character of an escape of one letter. -/
def escape? : Char → Option Char
  | '"' => some '"'
  | '\\' => some '\\'
  | '/' => some '/'
  | 'b' => some '\x08'
  | 'f' => some '\x0c'
  | 'n' => some '\n'
  | 'r' => some '\r'
  | 't' => some '\t'
  | _ => none

/-- What the text so far has begun. Characters collected so far stand in reverse. -/
inductive Mode where
  | between
  | word (cs : List Char)
  | number (cs : List Char)
  | string (cs : List Char)
  /-- After a backslash. -/
  | escape (cs : List Char)
  /-- In an escape by number, after the first half of a pair perhaps; `left` digits are to come. -/
  | code (cs : List Char) (high : Option Nat) (left value : Nat)
  /-- After the first half of a pair. -/
  | pair (cs : List Char) (high : Nat)
  /-- After the first half of a pair and a backslash. -/
  | pairEscape (cs : List Char) (high : Nat)
  deriving Inhabited

/-- The tokens so far, last first, and the mode. -/
structure Lexing where
  done : List Token := []
  mode : Mode := .between
  deriving Inhabited

/-- White space between tokens. -/
def isBlank (c : Char) : Bool := c == ' ' || c == '\n' || c == '\t' || c == '\r'

/-- Whether a character can be part of a number. -/
def isNumberChar (c : Char) : Bool :=
  c.isDigit || c == '-' || c == '+' || c == '.' || c == 'e' || c == 'E'

/-- A character that begins something new. -/
def begin? (done : List Token) (c : Char) : Option Lexing :=
  if isBlank c then some ⟨done, .between⟩
  else if c == '"' then some ⟨done, .string []⟩
  else if c.isDigit || c == '-' then some ⟨done, .number [c]⟩
  else if c.isAlpha then some ⟨done, .word [c]⟩
  else (sign? c).map fun t => ⟨t :: done, .between⟩

/-- The mode after a whole code unit of an escape. -/
def endCode? (cs : List Char) (high : Option Nat) (value : Nat) : Option Mode :=
  match high with
  | some h =>
    if 0xDC00 ≤ value && value ≤ 0xDFFF then
      some (.string (Char.ofNat (0x10000 + (h - 0xD800) * 0x400 + (value - 0xDC00)) :: cs))
    else none
  | none =>
    if 0xD800 ≤ value && value ≤ 0xDBFF then some (.pair cs value)
    else if 0xDC00 ≤ value && value ≤ 0xDFFF then none
    else some (.string (Char.ofNat value :: cs))

/-- One character. -/
def step (l : Lexing) (c : Char) : Option Lexing :=
  match l.mode with
  | .between => begin? l.done c
  | .word cs =>
    if c.isAlpha then some { l with mode := .word (c :: cs) }
    else (word? cs.reverse).bind fun t => begin? (t :: l.done) c
  | .number cs =>
    if isNumberChar c then some { l with mode := .number (c :: cs) }
    else (number? cs.reverse).bind fun n => begin? (.number n :: l.done) c
  | .string cs =>
    if c == '"' then some ⟨.string (String.ofList cs.reverse) :: l.done, .between⟩
    else if c == '\\' then some { l with mode := .escape cs }
    else if c.toNat < 32 then none
    else some { l with mode := .string (c :: cs) }
  | .escape cs =>
    if c == 'u' then some { l with mode := .code cs none 4 0 }
    else (escape? c).map fun e => { l with mode := .string (e :: cs) }
  | .code cs high left value =>
    (Text.hexValue? c).bind fun d =>
      let value := 16 * value + d
      if left ≤ 1 then (endCode? cs high value).map fun m => { l with mode := m }
      else some { l with mode := .code cs high (left - 1) value }
  | .pair cs high => if c == '\\' then some { l with mode := .pairEscape cs high } else none
  | .pairEscape cs high =>
    if c == 'u' then some { l with mode := .code cs (some high) 4 0 } else none

/-- The end of the text. -/
def finish? (l : Lexing) : Option (List Token) :=
  match l.mode with
  | .between => some l.done.reverse
  | .word cs => (word? cs.reverse).map fun t => (t :: l.done).reverse
  | .number cs => (number? cs.reverse).map fun n => (.number n :: l.done).reverse
  | _ => none

/-- The tokens of a text. -/
def ofText? (text : String) : Option (List Token) := (text.toList.foldlM step {}).bind finish?

end Token

end CodeGraph.Json
