/-! # Digits

Numbers given by their digits in a base up to sixteen. -/

namespace CodeGraph.Text

/-- The value of a digit in base sixteen. -/
def hexValue? (c : Char) : Option Nat :=
  if '0' ≤ c && c ≤ '9' then some (c.toNat - 48)
  else if 'a' ≤ c && c ≤ 'f' then some (c.toNat - 87)
  else if 'A' ≤ c && c ≤ 'F' then some (c.toNat - 55)
  else none

/-- The number of some digits of a base, most significant first. -/
def natOfDigits (base : Nat) (digits : List Nat) : Nat :=
  digits.foldl (fun n d => base * n + d) 0

/-- The number that characters stand for, if all of them are digits of a base. -/
def number? (base : Nat) (cs : List Char) : Option Nat :=
  (cs.mapM fun c => (hexValue? c).filter (· < base)).map (natOfDigits base)

end CodeGraph.Text
