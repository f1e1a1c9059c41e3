/-! # Seconds with two places

A stretch of time is shown in seconds with two places. The seconds are first brought to a binary
number of 53 digits, as the sum of the whole seconds and the rest, and that number is then rounded
to two places; in all roundings a half goes to the even neighbour. -/

namespace CodeGraph.Text

/-- The natural number nearest to a quotient, a half to the even neighbour. -/
def roundDiv (num den : Nat) : Nat :=
  let q := num / den
  let r := num % den
  if 2 * r < den then q
  else if den < 2 * r then q + 1
  else if q % 2 == 0 then q else q + 1

/-- A number `digits * 2 ^ exponent`. -/
structure Binary where
  digits : Nat
  exponent : Int
  deriving BEq, DecidableEq, Repr, Inhabited

namespace Binary

/-- The quotient of two numbers times a power of two, as numerator and denominator. -/
def scaled (num den : Nat) (exponent : Int) : Nat × Nat :=
  if 0 ≤ exponent then (num, den * Nat.pow 2 exponent.toNat)
  else (num * Nat.pow 2 (-exponent).toNat, den)

/-- The number of 53 binary digits nearest to a quotient. -/
def ofQuotient (num den : Nat) : Binary :=
  if num == 0 || den == 0 then ⟨0, 0⟩
  else
    let guess : Int := (Nat.log2 num : Int) - Nat.log2 den - 52
    let (n, d) := scaled num den guess
    let exponent := if n / d < Nat.pow 2 52 then guess - 1 else guess
    let (n, d) := scaled num den exponent
    ⟨roundDiv n d, exponent⟩

/-- The number of 53 binary digits nearest to a natural number. -/
def ofNat (n : Nat) : Binary := ofQuotient n 1

/-- The number as numerator and denominator. -/
def quotient (b : Binary) : Nat × Nat :=
  if 0 ≤ b.exponent then (b.digits * Nat.pow 2 b.exponent.toNat, 1)
  else (b.digits, Nat.pow 2 (-b.exponent).toNat)

/-- The sum, brought to 53 binary digits. -/
def add (a b : Binary) : Binary :=
  let (n, d) := a.quotient
  let (n', d') := b.quotient
  ofQuotient (n * d' + n' * d) (d * d')

end Binary

/-- Nanoseconds in a second. -/
def nanosPerSecond : Nat := 1000000000

/-- A stretch of time in seconds, as a binary number. -/
def seconds (nanos : Nat) : Binary :=
  (Binary.ofNat (nanos / nanosPerSecond)).add
    (Binary.ofQuotient (nanos % nanosPerSecond) nanosPerSecond)

/-- A stretch of time in seconds with two places. -/
def secondsText (nanos : Nat) : String :=
  let (n, d) := (seconds nanos).quotient
  let hundredths := roundDiv (n * 100) d
  let places := hundredths % 100
  toString (hundredths / 100) ++ "." ++ (if places < 10 then "0" else "") ++ toString places

end CodeGraph.Text
