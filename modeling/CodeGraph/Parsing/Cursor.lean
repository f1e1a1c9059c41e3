import CodeGraph.Parsing.Scanner

/-! # Looking ahead

Small steps shared by the scanners. At the end of the text the character ahead is the null
character, and going on stays there. -/

namespace CodeGraph.Parsing

namespace Cursor

/-- The character ahead, or the null character at the end. -/
def look (text : String) (p : Position) : Char := (p.peek text).getD '\x00'

/-- The position after the character ahead. -/
def next (text : String) (p : Position) : Position :=
  match p.peek text with
  | some c => p.after c
  | none => p

/-- Whether the text ends here. -/
def atEnd (text : String) (p : Position) : Bool := (p.peek text).isNone

/-- White space of the ASCII range. -/
def isSpace (c : Char) : Bool := c == ' ' || ('\t' ≤ c && c ≤ '\r')

/-- Passes over characters as long as they satisfy the test; `fuel` bounds their number. -/
def skipWhile (text : String) (test : Char → Bool) : Nat → Position → Position
  | 0, p => p
  | fuel + 1, p =>
    match p.peek text with
    | some c => if test c then skipWhile text test fuel (p.after c) else p
    | none => p

/-- Passes over all characters ahead that satisfy the test. -/
def skipAll (text : String) (test : Char → Bool) (p : Position) : Position :=
  skipWhile text test text.utf8ByteSize p

/-- Passes over the given characters, if they are ahead. -/
def expect (text : String) : List Char → Position → Option Position
  | [], p => some p
  | c :: cs, p => if look text p == c && c != '\x00' then expect text cs (next text p) else none

end Cursor

end CodeGraph.Parsing
