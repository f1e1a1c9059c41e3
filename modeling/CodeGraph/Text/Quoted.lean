import CodeGraph.Text.Printable

/-! # Quoted text

Text as messages show it: between double quotes, with quotes, backslashes, line ends, tabs and the
zero character escaped, and every other character that cannot be shown given by its number. -/

namespace CodeGraph.Text

/-- A number in lower-case hexadecimal digits. -/
def hex (n : Nat) : String := String.ofList (Nat.toDigits 16 n)

/-- A character between quotes. -/
def quotedChar (c : Char) : String :=
  match c with
  | '"' => "\\\""
  | '\\' => "\\\\"
  | '\n' => "\\n"
  | '\r' => "\\r"
  | '\t' => "\\t"
  | '\x00' => "\\0"
  | _ =>
    if ' ' ≤ c && c ≤ '~' then c.toString
    else if isExtending c || !isPrintable c then "\\u\x7b" ++ hex c.toNat ++ "\x7d"
    else c.toString

/-- A text between quotes. -/
def quoted (s : String) : String := "\"" ++ String.join (s.toList.map quotedChar) ++ "\""

/-- A text that may be missing. -/
def quotedOption : Option String → String
  | some s => "Some(" ++ quoted s ++ ")"
  | none => "None"

end CodeGraph.Text
