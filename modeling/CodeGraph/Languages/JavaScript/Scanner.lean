import CodeGraph.Parsing.Cursor

/-! # Tokens that depend on lines and context

JavaScript ends a statement at a line break unless the next line goes on with it; the question mark
of a conditional has to be told from optional chaining; text in templates and markup runs up to the
next special character. The scanner finds these tokens for JavaScript and TypeScript, which differ
in what may follow a line break. -/

namespace CodeGraph.Languages.JavaScript

open CodeGraph.Parsing Cursor

/-- The languages that the scanner serves. -/
inductive Dialect where
  | javascript
  | typescript
  deriving BEq

/-- The tokens of the scanner. -/
inductive Token where
  | automaticSemicolon
  | templateChars
  | ternaryMark
  | htmlComment
  | logicalOr
  | escapeSequence
  | regexPattern
  | jsxText
  | signatureSemicolon

/-- Index of a token among the external tokens. -/
def Token.index : Token → Nat
  | automaticSemicolon => 0
  | templateChars => 1
  | ternaryMark => 2
  | htmlComment => 3
  | logicalOr => 4
  | escapeSequence => 5
  | regexPattern => 6
  | jsxText => 7
  | signatureSemicolon => 8

/-- Characters that end a line. -/
def isLineEnd (c : Char) : Bool := c == '\n' || c == '\u2028' || c == '\u2029'

/-- Text of a template up to a quote, a substitution or an escape; the result is its end, if it is
not empty. -/
def templateText (text : String) (start : Position) : Option Position := Id.run do
  let mut p := start
  for _ in [0:text.utf8ByteSize + 1] do
    match look text p with
    | '`' | '\\' => return if p.byte > start.byte then some p else none
    | '\x00' => return none
    | '$' =>
      let q := next text p
      if look text q == '\x7b' then return if p.byte > start.byte then some p else none
      p := q
    | _ => p := next text p
  return none

/-- Where white space and comments end. -/
inductive Gap where
  /-- A slash that begins no comment. -/
  | slash
  /-- A block comment on one line, after which the line goes on. -/
  | inLine (p : Position)
  | done (p : Position)

/-- The end of a block comment from after its opening, and whether it contains a line end. -/
def blockComment (text : String) (start : Position) : Position × Bool × Bool := Id.run do
  let mut p := start
  let mut lines := false
  for _ in [0:text.utf8ByteSize + 1] do
    match look text p with
    | '\x00' => return (p, lines, false)
    | '*' =>
      p := next text p
      if look text p == '/' then return (next text p, lines, true)
    | c =>
      if isLineEnd c then lines := true
      p := next text p
  return (p, lines, false)

/-- Passes over white space and comments. With `whole` false, a block comment that is not followed
by a slash ends the gap. The flag says whether a comment was passed. -/
def gap (d : Dialect) (whole : Bool) (text : String) (start : Position) : Gap × Bool := Id.run do
  let mut p := start
  let mut comment := false
  let mut lines := false
  for _ in [0:text.utf8ByteSize + 1] do
    p := skipAll text isSpace p
    if look text p != '/' then return (.done p, comment)
    let q := next text p
    match look text q with
    | '/' =>
      let stops (c : Char) : Bool := c == '\x00' || (if d == .javascript then isLineEnd c else c == '\n')
      p := skipAll text (fun c => !stops c) (next text q)
      comment := true
    | '*' =>
      let (r, l, closed) := blockComment text (next text q)
      lines := lines || l
      p := r
      if closed then
        comment := true
        if d == .javascript && !whole && look text r != '/' then
          return (if lines then .done r else .inLine r, comment)
    | _ => return (.slash, comment)
  return (.done p, comment)

/-- Whether the text after a line break begins a new statement. -/
def beginsStatement (d : Dialect) (signature operator : Bool) (text : String) (p : Position) : Bool :=
  let c := look text p
  let after := next text p
  let common := "`,;*%><=?^|&/:".toList
  if common.contains c then false
  else match c with
    | '.' => d == .javascript && (look text after).isDigit
    | '\x7b' => !(d == .typescript && signature)
    | '(' | '[' => d == .typescript && !operator
    | '+' => look text after == '+'
    | '-' => look text after == '-'
    | '!' => look text after != '='
    | 'i' =>
      if look text after != 'n' then true
      else
        let rest := next text after
        if !(look text rest).isAlpha then false
        else match expect text "stanceof".toList rest with
          | none => true
          | some stop => (look text stop).isAlpha
    | _ => true

/-- Whether a statement ends here though no semicolon is written. The first flag of the result says
so, the second whether a comment was passed; the position is where looking ahead stopped. -/
def endsStatement (d : Dialect) (valid : Token → Bool) (text : String) (start : Position) :
    Bool × Bool × Position := Id.run do
  let operator := valid .logicalOr
  let mut p := start
  let mut comment := false
  for _ in [0:text.utf8ByteSize + 1] do
    if look text p == '\x00' then return (true, comment, p)
    if d == .javascript && look text p == '/' then
      match gap d false text p with
      | (.slash, c) => return (false, comment || c, p)
      | (.done q, c) =>
        comment := comment || c
        p := q
        if !operator && look text p != ',' && look text p != '=' then return (true, comment, p)
      | (.inLine q, c) =>
        comment := comment || c
        p := q
    if look text p == '\x7d' then
      if d == .javascript then return (true, comment, p)
      let q := skipAll text isSpace (next text p)
      return (if look text q == ':' then operator else true, comment, q)
    if look text p == '\n' || (d == .javascript && isLineEnd (look text p)) then break
    if !isSpace (look text p) then return (false, comment, p)
    p := next text p
  match gap d true text (next text p) with
  | (.slash, c) => return (false, comment || c, p)
  | (.inLine q, c) | (.done q, c) =>
    return (beginsStatement d (valid .signatureSemicolon) operator text q, comment || c, q)

/-- The question mark of a conditional expression. -/
def ternaryMark (d : Dialect) (text : String) (from_ : Position) : Option (Position × Position) :=
  let start := skipAll text isSpace from_
  if look text start != '?' then none
  else
    let stop := next text start
    let c := look text stop
    if c == '?' then none
    else if d == .typescript && c == '.' then none
    else
      let p := if d == .typescript then skipAll text isSpace stop else stop
      let c := look text p
      if d == .typescript && (c == ':' || c == ')' || c == ',') then none
      else if c == '.' then
        if (look text (next text p)).isDigit then some (start, stop) else none
      else some (start, stop)

/-- A comment in the form of markup, which runs to the end of the line. -/
def htmlComment (text : String) (from_ : Position) : Option (Position × Position) :=
  let start := skipAll text (fun c => isSpace c || c == '\u2028' || c == '\u2029') from_
  let opened := match expect text "<!--".toList start with
    | some p => some p
    | none => expect text "-->".toList start
  opened.map fun p => (start, skipAll text (fun c => c != '\x00' && !isLineEnd c) p)

/-- Text between tags, unless it is only line breaks and the white space after them. -/
def jsxText (text : String) (start : Position) : Option Position := Id.run do
  let mut p := start
  let mut seen := false
  let mut atBreak := false
  for _ in [0:text.utf8ByteSize + 1] do
    let c := look text p
    if c == '\x00' || c == '<' || c == '>' || c == '\x7b' || c == '\x7d' || c == '&' then break
    if c == '\n' then atBreak := true
    else
      atBreak := atBreak && isSpace c
      if !atBreak then seen := true
    p := next text p
  return if seen then some p else none

/-- The scanner. -/
def scan (d : Dialect) : Scanner := fun _ allowed text p =>
  let valid (t : Token) : Bool := allowed t.index
  let found (t : Token) (start stop : Position) : Option Scanned := some { token := t.index, start, stop }
  let mark (q : Position) : Option Scanned :=
    match ternaryMark d text q with
    | some (start, stop) => found .ternaryMark start stop
    | none => none
  if valid .templateChars then
    if valid .automaticSemicolon then none
    else match templateText text p with
      | some stop => found .templateChars p stop
      | none => none
  else
    match (if valid .jsxText then jsxText text p else none) with
    | some stop => found .jsxText p stop
    | none =>
      if valid .automaticSemicolon || (d == .typescript && valid .signatureSemicolon) then
        let (ends, comment, reached) := endsStatement d valid text p
        if ends then found .automaticSemicolon p p
        else if !comment && valid .ternaryMark && look text reached == '?' then mark reached
        else none
      else if valid .ternaryMark then mark p
      else if valid .htmlComment && !valid .logicalOr && !valid .escapeSequence
          && !valid .regexPattern then
        match htmlComment text p with
        | some (start, stop) => found .htmlComment start stop
        | none => none
      else none

end CodeGraph.Languages.JavaScript
