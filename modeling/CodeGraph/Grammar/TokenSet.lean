/-! # Sets of tokens

A set of tokens is a number: token `i` is in the set if the binary digit of weight `2 ^ i` is one.
Union and intersection are the operations on digits. -/

namespace CodeGraph.Grammar

/-- A set of tokens. -/
abbrev TokenSet := Nat

namespace TokenSet

/-- Membership. -/
def has (s : TokenSet) (i : Nat) : Bool := s.testBit i

/-- The set of the given tokens. -/
def ofList (xs : List Nat) : TokenSet := xs.foldl (fun acc i => acc ||| (1 <<< i)) 0

/-- The members of `s` that are not in `t`. -/
def minus (s t : TokenSet) : TokenSet := s ^^^ (s &&& t)

/-- The places of the first `n` digits of a word that are one, counted from `base`, in front of
`rest`. -/
def wordMembers (base : Nat) (w : UInt64) : Nat → List Nat → List Nat
  | 0, rest => rest
  | n + 1, rest =>
    wordMembers base w n (if (w >>> n.toUInt64) &&& 1 == 1 then (base + n) :: rest else rest)

/-- The members from `base` on, given the digits from there on; `fuel` bounds the number of
words. -/
def membersFrom : Nat → Nat → Nat → List Nat
  | 0, _, _ => []
  | fuel + 1, base, digits =>
    if digits == 0 then []
    else wordMembers base digits.toUInt64 64 (membersFrom fuel (base + 64) (digits >>> 64))

/-- The members in increasing order. -/
def toList (s : TokenSet) : List Nat := membersFrom (s.log2 / 64 + 1) 0 s

end TokenSet

/-- The union of two lists that are in order of their keys; of two members with one key the first
list's is taken. -/
def unionBy {α : Type} (key : α → Nat) : List α → List α → List α
  | [], ys => ys
  | xs, [] => xs
  | x :: xs, y :: ys =>
    if key x < key y then x :: unionBy key xs (y :: ys)
    else if key y < key x then y :: unionBy key (x :: xs) ys
    else x :: unionBy key xs ys

end CodeGraph.Grammar
