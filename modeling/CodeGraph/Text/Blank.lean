/-! # White space

The characters that count as white space, and texts without it at their ends. -/

namespace CodeGraph.Text

/-- Whether a character has the property `White_Space`. -/
def isBlank (c : Char) : Bool :=
  let n := c.toNat
  (9 ≤ n && n ≤ 13) || n == 32 || n == 0x85 || n == 0xA0 || n == 0x1680
    || (0x2000 ≤ n && n ≤ 0x200A) || n == 0x2028 || n == 0x2029 || n == 0x202F || n == 0x205F
    || n == 0x3000

/-- Characters without those at the start that satisfy a test. -/
def dropStart (p : Char → Bool) (cs : List Char) : List Char := cs.dropWhile p

/-- Characters without those at the end that satisfy a test. -/
def dropEnd (p : Char → Bool) (cs : List Char) : List Char := (cs.reverse.dropWhile p).reverse

/-- A text without the characters at its start that satisfy a test. -/
def trimStartWhere (p : Char → Bool) (s : String) : String := String.ofList (dropStart p s.toList)

/-- A text without the characters at its end that satisfy a test. -/
def trimEndWhere (p : Char → Bool) (s : String) : String := String.ofList (dropEnd p s.toList)

/-- A text without white space at its start. -/
def trimStart (s : String) : String := trimStartWhere isBlank s

/-- A text without white space at its end. -/
def trimEnd (s : String) : String := trimEndWhere isBlank s

/-- A text without white space at its ends. -/
def trim (s : String) : String := String.ofList (dropEnd isBlank (dropStart isBlank s.toList))

/-- What stands before and after the first occurrence of a mark. -/
def splitAtMark? (mark : List Char) : List Char → Option (List Char × List Char)
  | [] => if mark.isEmpty then some ([], []) else none
  | c :: cs =>
    if mark.isPrefixOf (c :: cs) then some ([], (c :: cs).drop mark.length)
    else (splitAtMark? mark cs).map fun (before, after) => (c :: before, after)

/-- What stands before and after the first occurrence of a mark. -/
def splitOnce? (mark s : String) : Option (String × String) :=
  (splitAtMark? mark.toList s.toList).map fun (a, b) => (String.ofList a, String.ofList b)

/-- The texts between the occurrences of a character. -/
def splitAll (c : Char) (s : String) : List String := (s.toList.splitOn c).map String.ofList

/-- What stands before and after the last occurrence of a character. -/
def splitLast? (c : Char) (s : String) : Option (String × String) :=
  (splitAtMark? [c] s.toList.reverse).map fun (after, before) =>
    (String.ofList before.reverse, String.ofList after.reverse)

end CodeGraph.Text
