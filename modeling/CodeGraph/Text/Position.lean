/-! # Positions in a text

A position counts bytes of the UTF-8 form from the start of the text, and lines and bytes from the
start of the line. Lines end with a line feed. -/

namespace CodeGraph

/-- A place in a text; all three counts start at zero. -/
structure Position where
  byte : Nat := 0
  row : Nat := 0
  column : Nat := 0
  deriving BEq, DecidableEq, Hashable, Repr, Inhabited

namespace Position

/-- The position after one more character. -/
def after (p : Position) (c : Char) : Position :=
  if c = '\n' then ⟨p.byte + 1, p.row + 1, 0⟩
  else ⟨p.byte + c.utf8Size, p.row, p.column + c.utf8Size⟩

/-- The character at a position, unless the text ends there. -/
def peek (text : String) (p : Position) : Option Char :=
  if p.byte < text.utf8ByteSize then some (String.Pos.Raw.get text ⟨p.byte⟩) else none

/-- The text between two byte offsets. -/
def slice (text : String) (start stop : Nat) : String :=
  String.Pos.Raw.extract text ⟨start⟩ ⟨stop⟩

end Position

end CodeGraph
