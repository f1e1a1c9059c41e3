import CodeGraph.Toml.Text

/-! # Numbers and times in TOML

Whole numbers have 64 bits and a sign; they can be written in four bases. Digits may stand apart
with an underscore between any two of them. Of other numbers, of dates and of times only the text is
kept, once it is known to be in order. -/

namespace CodeGraph.Toml

/-- The digits after the first one. An underscore must have a digit after it. -/
def moreDigits (isDigit : Char → Bool) : List Char → Option (List Char × List Char)
  | '_' :: c :: rest => if isDigit c then (moreDigits isDigit rest).map (consText c) else none
  | '_' :: [] => none
  | c :: rest =>
    if isDigit c then (moreDigits isDigit rest).map (consText c) else some ([], c :: rest)
  | [] => some ([], [])

/-- Digits, of which there must be one. -/
def digits (isDigit : Char → Bool) : List Char → Option (List Char × List Char)
  | c :: rest => if isDigit c then (moreDigits isDigit rest).map (consText c) else none
  | [] => none

/-- The digits of a decimal number: a zero, or digits that do not begin with one. -/
def decimalDigits : List Char → Option (List Char × List Char)
  | '0' :: rest => some (['0'], rest)
  | cs => digits Char.isDigit cs

/-- The sign in front of a number. -/
def sign : List Char → Option Char × List Char
  | '+' :: rest => (some '+', rest)
  | '-' :: rest => (some '-', rest)
  | cs => (none, cs)

/-- A whole number, if it fits in 64 bits. -/
def integerOf? (n : Int) : Option Toml :=
  if -0x8000000000000000 ≤ n && n < 0x8000000000000000 then some (.integer n) else none

/-- A whole number in a base, after the letter that tells it. -/
def based (base : Nat) (cs : List Char) : Option (Toml × List Char) := do
  let (ds, rest) ← digits (fun c => (Text.hexValue? c).any (· < base)) cs
  return (← integerOf? (Text.natOfDigits base (ds.filterMap Text.hexValue?)), rest)

/-- A whole number. -/
def wholeNumber : List Char → Option (Toml × List Char)
  | '0' :: 'x' :: rest => based 16 rest
  | '0' :: 'o' :: rest => based 8 rest
  | '0' :: 'b' :: rest => based 2 rest
  | cs => do
    let (s, cs) := sign cs
    let (ds, rest) ← decimalDigits cs
    let n : Int := Text.natOfDigits 10 (ds.filterMap Text.hexValue?)
    return (← integerOf? (if s == some '-' then -n else n), rest)

/-- The exponent of a number: what is left after it. -/
def exponent? : List Char → Option (List Char)
  | c :: rest =>
    if c == 'e' || c == 'E' then (digits Char.isDigit (sign rest).2).map (·.2) else none
  | [] => none

/-- The fraction of a number: what is left after it. -/
def fraction? : List Char → Option (List Char)
  | '.' :: rest => (digits Char.isDigit rest).map (·.2)
  | _ => none

/-- What is left after a number with a fraction or an exponent, an infinity or no number. -/
def afterFloat? (cs : List Char) : Option (List Char) :=
  match (sign cs).2 with
  | 'i' :: 'n' :: 'f' :: rest => some rest
  | 'n' :: 'a' :: 'n' :: rest => some rest
  | cs => do
    let (_, rest) ← decimalDigits cs
    match fraction? rest with
    | some rest => some ((exponent? rest).getD rest)
    | none => exponent? rest

/-- A number of exactly so many digits, within limits. -/
def fixedNumber (count low high : Nat) (cs : List Char) : Option (Nat × List Char) :=
  let ds := cs.take count
  let n := Text.natOfDigits 10 (ds.filterMap Text.hexValue?)
  if ds.length == count && ds.all Char.isDigit && low ≤ n && n ≤ high then some (n, cs.drop count)
  else none

/-- Number of days in a month. -/
def daysIn (year month : Nat) : Nat :=
  if month == 2 then
    if year % 4 == 0 && (year % 100 != 0 || year % 400 == 0) then 29 else 28
  else if month == 4 || month == 6 || month == 9 || month == 11 then 30
  else 31

/-- What is left after a character. -/
def afterChar? (c : Char) : List Char → Option (List Char)
  | x :: rest => if x == c then some rest else none
  | [] => none

/-- What is left after a date. -/
def afterDate? (cs : List Char) : Option (List Char) := do
  let (year, cs) ← fixedNumber 4 0 9999 cs
  let (month, cs) ← fixedNumber 2 1 12 (← afterChar? '-' cs)
  let (_, cs) ← fixedNumber 2 1 (daysIn year month) (← afterChar? '-' cs)
  return cs

/-- What is left after hours and minutes. -/
def afterMinutes? (cs : List Char) : Option (List Char) := do
  let (_, cs) ← fixedNumber 2 0 23 cs
  let (_, cs) ← fixedNumber 2 0 59 (← afterChar? ':' cs)
  return cs

/-- What is left after a time of the day. -/
def afterTime? (cs : List Char) : Option (List Char) := do
  let (_, cs) ← fixedNumber 2 0 60 (← afterChar? ':' (← afterMinutes? cs))
  match cs with
  | '.' :: c :: rest =>
    return if c.isDigit then rest.dropWhile Char.isDigit else cs
  | _ => return cs

/-- What is left after the distance of a time from that of the world, if one is given. -/
def dropOffset (cs : List Char) : List Char :=
  match cs with
  | 'Z' :: rest => rest
  | 'z' :: rest => rest
  | '+' :: rest => (afterMinutes? rest).getD cs
  | '-' :: rest => (afterMinutes? rest).getD cs
  | _ => cs

/-- Whether a character stands between a date and a time. -/
def isTimeMark (c : Char) : Bool := c == 'T' || c == 't' || c == ' '

/-- What is left after a date, a time or both. -/
def afterDateTime? (cs : List Char) : Option (List Char) :=
  match afterDate? cs with
  | some (c :: rest) =>
    if isTimeMark c then some (((afterTime? rest).map dropOffset).getD (c :: rest))
    else some (c :: rest)
  | some [] => some []
  | none => afterTime? cs

/-- The part of a text in front of what is left. -/
def textBefore (cs rest : List Char) : String := String.ofList (cs.take (cs.length - rest.length))

/-- A number, a date or a time. -/
def numberOrTime (cs : List Char) : Option (Toml × List Char) :=
  match afterDateTime? cs, afterFloat? cs with
  | some rest, _ => some (.dateTime (textBefore cs rest), rest)
  | none, some rest => some (.float (textBefore cs rest), rest)
  | none, none => wholeNumber cs

end CodeGraph.Toml
