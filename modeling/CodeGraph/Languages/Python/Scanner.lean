import CodeGraph.Parsing.Cursor

/-! # Lines, blocks and strings

The end of a statement, the begin and end of an indented block, and the parts of a string literal
depend on line breaks, on the widths of the open blocks and on the quotes that are open. The scanner
keeps these and finds the tokens. Widths count a tab as eight. -/

namespace CodeGraph.Languages.Python

open CodeGraph.Parsing Cursor

/-- The tokens of the scanner. A closing bracket and the word after a block are only asked for, not
found, here. -/
inductive Token where
  | newline
  | indent
  | dedent
  | stringStart
  | stringContent
  | escapedBrace
  | stringEnd
  | comment
  | closeBracket
  | closeParenthesis
  | closeBrace
  | handler

/-- Index of a token among the external tokens. -/
def Token.index : Token → Nat
  | newline => 0
  | indent => 1
  | dedent => 2
  | stringStart => 3
  | stringContent => 4
  | escapedBrace => 5
  | stringEnd => 6
  | comment => 7
  | closeBracket => 8
  | closeParenthesis => 9
  | closeBrace => 10
  | handler => 11

/-- What looking for a part of a string yields. -/
inductive Part where
  | found (token : Token) (stop : Position)
  | refused
  /-- The text ended before the string did. -/
  | ended (p : Position)

/-- Passes over a backslash in a raw string with the character that it keeps from ending the string
and a line break. -/
def rawEscape (q : Quote) (text : String) (p : Position) : Position :=
  let p := next text p
  let p := if look text p == q.mark || look text p == '\\' then next text p else p
  if look text p == '\r' then
    let p := next text p
    if look text p == '\n' then next text p else p
  else if look text p == '\n' then next text p
  else p

/-- The text of a string up to an escape, a brace of a replacement field or its end, or its end. -/
def stringPart (q : Quote) (text : String) (start : Position) : Part := Id.run do
  let mut p := start
  let mut content := false
  for _ in [0:text.utf8ByteSize + 1] do
    let c := look text p
    let upTo (stop : Position) : Part := if content then .found .stringContent stop else .refused
    if c == '\x00' then return .ended p
    if q.format && (c == '\x7b' || c == '\x7d') then return upTo p
    if c == '\\' && q.raw then
      p := rawEscape q text p
    else if c == '\\' then
      if !q.bytes then return upTo p
      let after := next text p
      if !(['N', 'u', 'U'].contains (look text after)) then return upTo p
      p := next text (next text after)
      content := true
    else if c == q.mark then
      let one := next text p
      if q.triple then
        if look text one != q.mark then return .found .stringContent one
        let two := next text one
        if look text two != q.mark then return .found .stringContent two
        return if content then .found .stringContent p else .found .stringEnd (next text two)
      return if content then .found .stringContent p else .found .stringEnd one
    else if c == '\n' && content && !q.triple then return .refused
    else
      p := next text p
      content := true
  return .ended p

/-- White space and comments in front of a token. -/
structure Lines where
  stop : Position
  /-- A line ended. -/
  broken : Bool
  /-- Width of the white space in front of the token on its line. -/
  width : Nat
  /-- Width in front of the first comment on a line of its own. -/
  commentWidth : Option Nat

/-- Passes over white space and, when `comments`, over comments on lines of their own; nothing is
found when a comment follows on the same line or a backslash ends no line. -/
def lines (comments : Bool) (text : String) (start : Position) : Option Lines := Id.run do
  let mut p := start
  let mut broken := false
  let mut width := 0
  let mut commentWidth : Option Nat := none
  for _ in [0:text.utf8ByteSize + 1] do
    let c := look text p
    if c == '\n' then
      broken := true
      width := 0
      p := next text p
    else if c == ' ' then
      width := width + 1
      p := next text p
    else if c == '\r' || c == '\x0c' then
      width := 0
      p := next text p
    else if c == '\t' then
      width := width + 8
      p := next text p
    else if c == '#' && comments then
      if !broken then return none
      if commentWidth.isNone then commentWidth := some width
      p := next text (skipAll text (fun d => d != '\x00' && d != '\n') p)
      width := 0
    else if c == '\\' then
      let q := next text p
      let q := if look text q == '\r' then next text q else q
      if look text q == '\n' || atEnd text q then p := next text q else return none
    else
      if atEnd text p then return some ⟨p, true, 0, commentWidth⟩
      break
  return some ⟨p, broken, width, commentWidth⟩

/-- The opening of a string with the letters in front of its quote. -/
def opening (text : String) (start : Position) : Option (Quote × Position) := Id.run do
  let mut p := start
  let mut q : Quote := { mark := '\x00', triple := false, raw := false, bytes := false, format := false }
  for _ in [0:text.utf8ByteSize + 1] do
    match look text p with
    | 'f' | 'F' => q := { q with format := true }
    | 'r' | 'R' => q := { q with raw := true }
    | 'b' | 'B' => q := { q with bytes := true }
    | 'u' | 'U' => pure ()
    | _ => break
    p := next text p
  let mark := look text p
  let one := next text p
  if mark == '`' then return some ({ q with mark }, one)
  if mark != '\'' && mark != '"' then return none
  let two := next text one
  if look text one == mark && look text two == mark then
    return some ({ q with mark, triple := true }, next text two)
  return some ({ q with mark }, one)

/-- The tokens of lines and blocks, and openings of strings. -/
def lineToken (valid : Token → Bool) (s : ScanState) (text : String) (start : Position) :
    Option Scanned :=
  let recovering := valid .stringContent && valid .indent
  let bracketed := valid .closeBrace || valid .closeParenthesis || valid .closeBracket
  let comments := valid .indent || valid .dedent || valid .newline || valid .handler
  let found (t : Token) (from_ stop : Position) (s : ScanState) : Option Scanned :=
    some { token := t.index, start := from_, stop, state := some s }
  match lines comments text start with
  | none => none
  | some l =>
    let quoteAhead := ['"', '\'', '`'].contains (look text l.stop)
    let outer := s.blocks.headD 0
    if l.broken && valid .indent && l.width > outer then
      found .indent start start { s with blocks := l.width :: s.blocks }
    else if l.broken && l.width < outer && !s.inField
        && (valid .dedent
          || (!valid .newline && !(valid .stringStart && quoteAhead) && !bracketed))
        && l.commentWidth.all (· < outer) then
      found .dedent start start { s with blocks := s.blocks.drop 1 }
    else if l.broken && valid .newline && !recovering then
      found .newline start start s
    else if l.commentWidth.isNone && valid .stringStart then
      match opening text l.stop with
      | some (q, stop) =>
        found .stringStart l.stop stop { s with quotes := q :: s.quotes, inField := q.format }
      | none => none
    else none

/-- The scanner. -/
def scan : Scanner := fun state allowed text p =>
  let valid (t : Token) : Bool := allowed t.index
  let s := state.getD { blocks := [0] }
  let recovering := valid .stringContent && valid .indent
  let found (t : Token) (stop : Position) (s : ScanState) : Option Scanned :=
    some { token := t.index, start := p, stop, state := some s }
  let c := look text p
  match (if recovering then none else s.quotes.head?) with
  | none => lineToken valid s text p
  | some q =>
    if valid .escapedBrace && (c == '\x7b' || c == '\x7d') && q.format then
      if look text (next text p) == c then found .escapedBrace (next text (next text p)) s else none
    else if valid .stringContent then
      match stringPart q text p with
      | .found .stringEnd stop => found .stringEnd stop { s with quotes := s.quotes.drop 1, inField := false }
      | .found t stop => found t stop s
      | .refused => none
      | .ended stop => lineToken valid s text stop
    else lineToken valid s text p

end CodeGraph.Languages.Python
