import CodeGraph.Text.Digits
import CodeGraph.Toml.Value

/-! # Texts in TOML

Texts between single or double quotes, on one line or on several. Between double quotes a backslash
begins an escape; between single quotes every character stands for itself. Over several lines a line
ends in a line feed, however it is written. -/

namespace CodeGraph.Toml

/-- A character that may stand in a line: no control character except the tab. -/
def isPlain (c : Char) : Bool := c == '\t' || (' ' ≤ c && c != '\x7f')

/-- Space between the words of a line. -/
def isBlank (c : Char) : Bool := c == ' ' || c == '\t'

/-- The character of a code point, if there is one. -/
def scalar? (n : Nat) : Option Char := if n.isValidChar then some (Char.ofNat n) else none

/-- The character of a code point in hexadecimal digits. -/
def unicode? (digits : List Char) : Option Char :=
  (digits.mapM Text.hexValue?).bind fun ds => scalar? (Text.natOfDigits 16 ds)

/-- The character of a letter after a backslash. -/
def escaped? : Char → Option Char
  | 'b' => some '\x08'
  | 't' => some '\t'
  | 'n' => some '\n'
  | 'f' => some '\x0c'
  | 'r' => some '\r'
  | '"' => some '"'
  | '\\' => some '\\'
  | _ => none

/-- Puts a character in front of a text that has been read. -/
def consText (c : Char) (r : List Char × List Char) : List Char × List Char := (c :: r.1, r.2)

/-- A text between double quotes, after the first of them. -/
def basicText : List Char → Option (List Char × List Char)
  | '"' :: rest => some ([], rest)
  | '\\' :: 'u' :: a :: b :: c :: d :: rest => do
    let x ← unicode? [a, b, c, d]
    return consText x (← basicText rest)
  | '\\' :: 'U' :: a :: b :: c :: d :: e :: f :: g :: h :: rest => do
    let x ← unicode? [a, b, c, d, e, f, g, h]
    return consText x (← basicText rest)
  | '\\' :: x :: rest => do
    let x ← escaped? x
    return consText x (← basicText rest)
  | x :: rest => if isPlain x && x != '\\' then (basicText rest).map (consText x) else none
  | [] => none

/-- A text between single quotes, after the first of them. -/
def literalText : List Char → Option (List Char × List Char)
  | '\x27' :: rest => some ([], rest)
  | x :: rest => if isPlain x then (literalText rest).map (consText x) else none
  | [] => none

/-- The rest after a line end, if the text begins with one. -/
def newline? : List Char → Option (List Char)
  | '\n' :: rest => some rest
  | '\r' :: '\n' :: rest => some rest
  | _ => none

/-- Whether nothing but space comes before the end of the line. -/
def endsLine (cs : List Char) : Bool := (newline? (cs.dropWhile isBlank)).isSome

/-- A text between triple double quotes, after the first three. Two of the quotes in front of the
last three may belong to the text. A backslash at the end of a line takes away the space up to the
next word, which is being skipped if `skipping`. -/
def basicLines (skipping : Bool) : List Char → Option (List Char × List Char)
  | '"' :: '"' :: '"' :: '"' :: '"' :: rest => some (['"', '"'], rest)
  | '"' :: '"' :: '"' :: '"' :: rest => some (['"'], rest)
  | '"' :: '"' :: '"' :: rest => some ([], rest)
  | '\\' :: 'u' :: a :: b :: c :: d :: rest => do
    let x ← unicode? [a, b, c, d]
    return consText x (← basicLines false rest)
  | '\\' :: 'U' :: a :: b :: c :: d :: e :: f :: g :: h :: rest => do
    let x ← unicode? [a, b, c, d, e, f, g, h]
    return consText x (← basicLines false rest)
  | '\r' :: '\n' :: rest =>
    if skipping then basicLines true rest else (basicLines false rest).map (consText '\n')
  | '\\' :: x :: rest =>
    if endsLine (x :: rest) then basicLines true (x :: rest)
    else do
      let x ← escaped? x
      return consText x (← basicLines false rest)
  | x :: rest =>
    if skipping && (isBlank x || x == '\n') then basicLines true rest
    else if (isPlain x || x == '\n') && x != '\\' then (basicLines false rest).map (consText x)
    else none
  | [] => none

/-- A text between triple single quotes, after the first three. Two of the quotes in front of the
last three may belong to the text. -/
def literalLines : List Char → Option (List Char × List Char)
  | '\x27' :: '\x27' :: '\x27' :: '\x27' :: '\x27' :: rest => some (['\x27', '\x27'], rest)
  | '\x27' :: '\x27' :: '\x27' :: '\x27' :: rest => some (['\x27'], rest)
  | '\x27' :: '\x27' :: '\x27' :: rest => some ([], rest)
  | '\r' :: '\n' :: rest => (literalLines rest).map (consText '\n')
  | x :: rest => if isPlain x || x == '\n' then (literalLines rest).map (consText x) else none
  | [] => none

/-- A text over several lines does not begin with a line end. -/
def dropNewline (cs : List Char) : List Char := (newline? cs).getD cs

/-- A text of any kind, with its quotes. -/
def text : List Char → Option (String × List Char)
  | '"' :: '"' :: '"' :: rest => (basicLines false (dropNewline rest)).map asText
  | '"' :: rest => (basicText rest).map asText
  | '\x27' :: '\x27' :: '\x27' :: rest => (literalLines (dropNewline rest)).map asText
  | '\x27' :: rest => (literalText rest).map asText
  | _ => none
where
  /-- The characters that have been read as a text. -/
  asText (r : List Char × List Char) : String × List Char := (String.ofList r.1, r.2)

end CodeGraph.Toml
