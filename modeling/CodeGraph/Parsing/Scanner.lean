import CodeGraph.Text.Position

/-! # External scanners

Some tokens depend on more than the characters ahead: line structure, indentation, the quotes that
are open. Such tokens come from a scanner, a function of the text, of the place and of a small state
that the parser keeps with each of its readings of the text. -/

namespace CodeGraph.Parsing

/-- An open string literal. -/
structure Quote where
  /-- The quote character. -/
  mark : Char
  triple : Bool
  raw : Bool
  bytes : Bool
  format : Bool
  deriving BEq, DecidableEq, Repr, Inhabited

/-- What a scanner remembers: widths of the open blocks and the open string literals, innermost
first, and whether the text is inside a replacement field of a formatted string. -/
structure ScanState where
  blocks : List Nat := []
  quotes : List Quote := []
  inField : Bool := false
  deriving BEq, DecidableEq, Repr, Inhabited

/-- A token found by a scanner: its index among the external tokens, its extent and what the
scanner remembers afterwards, if it remembers anything. -/
structure Scanned where
  token : Nat
  start : Position
  stop : Position
  state : Option ScanState := none
  deriving Repr, Inhabited

/-- A scanner. It is told which of its tokens are allowed, by index. -/
abbrev Scanner := Option ScanState → (Nat → Bool) → String → Position → Option Scanned

end CodeGraph.Parsing
