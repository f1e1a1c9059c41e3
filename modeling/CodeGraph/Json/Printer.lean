import CodeGraph.Json.Value

/-! # JSON text

Values as text, in one line or over several lines with two blanks for each level. Of the characters
of a text only quotes, backslashes and controls are escaped. -/

namespace CodeGraph.Json

/-- A digit of a number in base sixteen. -/
def hexDigit (n : Nat) : Char := if n < 10 then Char.ofNat (48 + n) else Char.ofNat (87 + n)

/-- A character inside a text. -/
def escapedChar (c : Char) : List Char :=
  match c with
  | '"' => ['\\', '"']
  | '\\' => ['\\', '\\']
  | '\n' => ['\\', 'n']
  | '\r' => ['\\', 'r']
  | '\t' => ['\\', 't']
  | '\x08' => ['\\', 'b']
  | '\x0c' => ['\\', 'f']
  | _ =>
    if c.toNat < 32 then ['\\', 'u', '0', '0', hexDigit (c.toNat / 16), hexDigit (c.toNat % 16)]
    else [c]

/-- A text between quotes. -/
def quote (s : String) : String := "\"" ++ String.ofList (s.toList.flatMap escapedChar) ++ "\""

/-- A number as text. -/
def numberText : JsonNumber → String
  | .whole n => toString n
  | .decimal text => text

/-- A value without parts as text. -/
def scalarText : Json → String
  | .null => "null"
  | .bool true => "true"
  | .bool false => "false"
  | .number n => numberText n
  | .string s => quote s
  | .array _ => "[]"
  | .object _ => "\x7b\x7d"

mutual
/-- A value in one line. -/
def compact : Json → String
  | .array (x :: xs) => "[" ++ compact x ++ compactItems xs ++ "]"
  | .object ((k, v) :: fs) => "\x7b" ++ quote k ++ ":" ++ compact v ++ compactFields fs ++ "\x7d"
  | j => scalarText j

/-- The items after the first, each after a comma. -/
def compactItems : List Json → String
  | [] => ""
  | x :: xs => "," ++ compact x ++ compactItems xs

/-- The fields after the first, each after a comma. -/
def compactFields : List (String × Json) → String
  | [] => ""
  | (k, v) :: fs => "," ++ quote k ++ ":" ++ compact v ++ compactFields fs
end

/-- The end of a line and the indentation of the next. -/
def lineBreak (level : Nat) : String := "\n" ++ "".pushn ' ' (2 * level)

mutual
/-- A value over several lines; `level` is the depth at which it stands. -/
def prettyAt (level : Nat) : Json → String
  | .array (x :: xs) =>
    "[" ++ lineBreak (level + 1) ++ prettyAt (level + 1) x ++ prettyItems (level + 1) xs
      ++ lineBreak level ++ "]"
  | .object ((k, v) :: fs) =>
    "\x7b" ++ lineBreak (level + 1) ++ quote k ++ ": " ++ prettyAt (level + 1) v
      ++ prettyFields (level + 1) fs ++ lineBreak level ++ "\x7d"
  | j => scalarText j

/-- The items after the first, each on a line of its own. -/
def prettyItems (level : Nat) : List Json → String
  | [] => ""
  | x :: xs => "," ++ lineBreak level ++ prettyAt level x ++ prettyItems level xs

/-- The fields after the first, each on a line of its own. -/
def prettyFields (level : Nat) : List (String × Json) → String
  | [] => ""
  | (k, v) :: fs =>
    "," ++ lineBreak level ++ quote k ++ ": " ++ prettyAt level v ++ prettyFields level fs
end

/-- A value over several lines. -/
def pretty (j : Json) : String := prettyAt 0 j

end CodeGraph.Json
