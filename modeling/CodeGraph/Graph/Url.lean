import CodeGraph.Text.Blank
import CodeGraph.Text.Digits
import CodeGraph.Text.Quoted
import CodeGraph.Text.Utf8

/-! # Web addresses in normal form

A web address as it is used for a request: scheme and host in lower case, the standard port left
out, steps within the path taken, and characters that may not appear given by their bytes. A host
that is an address in numbers is written in one way only. The one thing left out is what names
outside of ASCII stand for: these are kept as they are. -/

namespace CodeGraph.Url

/-- A byte given by two digits in base sixteen. -/
def percentByte (b : UInt8) : String :=
  let digits := (hexUpper (b.toNat / 16)).toString ++ (hexUpper (b.toNat % 16)).toString
  "%" ++ digits
where
  /-- A digit in base sixteen, in upper case. -/
  hexUpper (n : Nat) : Char := if n < 10 then Char.ofNat (48 + n) else Char.ofNat (55 + n)

/-- A text with the characters outside of ASCII, controls and the characters of a set given by
their bytes. -/
def percentEncode (reserved : List Char) (s : List Char) : String :=
  String.join (s.map fun c =>
    if c.toNat < 32 || c.toNat > 126 || reserved.contains c then
      String.join (c.toString.toUTF8.toList.map percentByte)
    else c.toString)

/-- Characters that may not appear in a path. -/
def pathReserved : List Char := [' ', '"', '#', '<', '>', '?', '\x60', '\x7b', '\x7d']

/-- Characters that may not appear in a query. -/
def queryReserved : List Char := [' ', '"', '#', '<', '>', '\x27']

/-- Characters that may not appear in a fragment. -/
def fragmentReserved : List Char := [' ', '"', '<', '>', '\x60']

/-- Characters that may not appear in a host. -/
def hostForbidden : List Char :=
  [' ', '#', '/', '<', '>', '?', '@', '[', '\\', ']', '^', '|', '%', ':']

/-- Whether a step of a path means the place itself. -/
def isHere (s : String) : Bool := s == "." || s.map Char.toLower == "%2e"

/-- Whether a step of a path means the place above. -/
def isUp (s : String) : Bool :=
  ["..", ".%2e", "%2e.", "%2e%2e"].contains (s.map Char.toLower)

/-- Cuts characters at slashes of either kind. -/
def steps (cs : List Char) : List String :=
  ((cs.map fun c => if c == '\\' then '/' else c).splitOn '/').map String.ofList

/-- Takes the steps of a path; the steps kept stand in reverse. -/
def takeSteps (kept : List String) : List String → List String
  | [] => kept.reverse
  | [s] =>
    if isUp s then ("" :: kept.drop 1).reverse
    else if isHere s then ("" :: kept).reverse
    else (s :: kept).reverse
  | s :: rest =>
    if isUp s then takeSteps (kept.drop 1) rest
    else if isHere s then takeSteps kept rest
    else takeSteps (s :: kept) rest

/-- A path in normal form. -/
def normalPath (cs : List Char) : String :=
  let rest := match steps cs with
    | "" :: rest => rest
    | all => all
  "/" ++ "/".intercalate (takeSteps [] (rest.map fun s => percentEncode pathReserved s.toList))

/-- The standard port of a scheme. -/
def standardPort (scheme : String) : Nat := if scheme == "https" then 443 else 80

/-- A port as it is shown, or `none` if there is no such port. -/
def portText? (scheme : String) (digits : List Char) : Option String :=
  if !digits.all Char.isDigit then none
  else
    let n := digits.foldl (fun n c => 10 * n + (c.toNat - 48)) 0
    if n > 65535 then none
    else if digits.isEmpty || n == standardPort scheme then some ""
    else some (":" ++ toString n)

/-! ## Hosts -/

/-- The bytes that characters stand for, with a percent sign before each byte that is given by two
digits in base sixteen. -/
def percentDecode : List Char → List UInt8
  | '%' :: a :: b :: rest =>
    match Text.hexValue? a, Text.hexValue? b with
    | some high, some low => UInt8.ofNat (16 * high + low) :: percentDecode rest
    | _, _ => 37 :: percentDecode (a :: b :: rest)
  | c :: rest => c.toString.toUTF8.toList ++ percentDecode rest
  | [] => []

/-- The parts of a host; a dot at its end does not count. -/
def hostParts (host : List Char) : List (List Char) :=
  match (host.splitOn '.').reverse with
  | [] :: p :: before => (p :: before).reverse
  | parts => parts.reverse

/-- A number in a host: in base sixteen after `0x`, in base eight after `0`, and else in base
ten. -/
def partNumber? : List Char → Option Nat
  | [] => none
  | '0' :: 'x' :: digits => Text.number? 16 digits
  | '0' :: 'X' :: digits => Text.number? 16 digits
  | '0' :: digits => Text.number? 8 digits
  | digits => Text.number? 10 digits

/-- Whether a host is meant as an address in numbers: its last part is a number. -/
def endsInNumber (host : List Char) : Bool :=
  (hostParts host).getLast?.any fun last =>
    (!last.isEmpty && last.all Char.isDigit) || (partNumber? last).isSome

/-- An address of 32 bits, from up to four numbers between dots. Each number but the last is a byte,
and the last one stands for all bytes that are left. -/
def ipv4? (host : List Char) : Option Nat := do
  let numbers ← (hostParts host).mapM partNumber?
  let last ← numbers.getLast?
  let bytes := numbers.dropLast
  let left := Nat.pow 256 (4 - bytes.length)
  if bytes.length > 3 || bytes.any (· > 255) || last ≥ left then none
  return Text.natOfDigits 256 bytes * left + last

/-- An address of 32 bits, byte by byte. -/
def ipv4Text (n : Nat) : String :=
  ".".intercalate ([3, 2, 1, 0].map fun i => toString (n / Nat.pow 256 i % 256))

/-- Four bytes between dots, as two pieces of 16 bits. -/
def dotted? (cs : List Char) : Option (List Nat) := do
  let bytes ← (cs.splitOn '.').mapM fun part =>
    if part.length > 3 || (part.length > 1 && part.head? == some '0') || part.isEmpty then none
    else (Text.number? 10 part).filter (· < 256)
  match bytes with
  | [a, b, c, d] => some [256 * a + b, 256 * c + d]
  | _ => none

/-- A piece of 16 bits, in up to four digits in base sixteen. -/
def piece? (cs : List Char) : Option Nat :=
  if cs.isEmpty || cs.length > 4 then none else Text.number? 16 cs

/-- Pieces between colons; at the end of an address, four bytes can stand for the last two. -/
def pieces? (atEnd : Bool) (cs : List Char) : Option (List Nat) :=
  if cs.isEmpty then some []
  else
    let groups := cs.splitOn ':'
    let last := groups.getLastD []
    if atEnd && last.contains '.' then do
      return (← groups.dropLast.mapM piece?) ++ (← dotted? last)
    else groups.mapM piece?

/-- An address of eight pieces. Two colons stand for zeros. -/
def ipv6? (cs : List Char) : Option (List Nat) :=
  match Text.splitAtMark? [':', ':'] cs with
  | none => (pieces? true cs).filter (·.length == 8)
  | some (before, after) => do
    let before ← pieces? false before
    let after ← pieces? true after
    let given := before.length + after.length
    if given > 7 then none
    return before ++ List.replicate (8 - given) 0 ++ after

/-- An address of eight pieces, with two colons for the first of the longest runs of zeros. -/
def ipv6Text (pieces : List Nat) : String :=
  let shown (pieces : List Nat) := ":".intercalate (pieces.map Text.hex)
  let runs := (List.range 8).map fun i => ((pieces.drop i).takeWhile (· == 0)).length
  let longest := runs.foldl max 0
  let start := runs.idxOf longest
  if longest < 2 then shown pieces
  else shown (pieces.take start) ++ "::" ++ shown (pieces.drop (start + longest))

/-- A host outside of brackets in normal form, or `none` if there can be no such host. -/
def host? (cs : List Char) : Option String :=
  if cs.isEmpty then none
  else
    let host := (Text.ofUtf8Lossy (percentDecode cs).toByteArray).toList.map Char.toLower
    if host.any fun c => c.toNat < 33 || c.toNat == 127 || hostForbidden.contains c then none
    else if endsInNumber host then (ipv4? host).map ipv4Text
    else some (String.ofList host)

/-- Host and port in normal form. Who the request is made for is left out. -/
def authority? (scheme : String) (cs : List Char) : Option String := do
  let cs := match Text.splitAtMark? ['@'] cs.reverse with
    | some (after, _) => after.reverse
    | none => cs
  match cs with
  | '[' :: rest =>
    let (inner, port) ← Text.splitAtMark? [']'] rest
    let port ← match port with
      | [] => some []
      | ':' :: digits => some digits
      | _ => none
    return "[" ++ ipv6Text (← ipv6? inner) ++ "]" ++ (← portText? scheme port)
  | _ =>
    let (host, port) := (Text.splitAtMark? [':'] cs).getD (cs, [])
    return (← host? host) ++ (← portText? scheme port)

/-- A web address in normal form, or `none` if it cannot be used for a request. -/
def normal? (url : String) : Option String := do
  let isEdge (c : Char) : Bool := c.toNat ≤ 32
  let cs := (Text.dropEnd isEdge (Text.dropStart isEdge url.toList)).filter fun c =>
    c != '\t' && c != '\n' && c != '\r'
  let (scheme, rest) ← Text.splitAtMark? [':'] cs
  let scheme := (String.ofList scheme).map Char.toLower
  if scheme != "http" && scheme != "https" then none
  let rest := rest.dropWhile fun c => c == '/' || c == '\\'
  let (before, fragment) := match Text.splitAtMark? ['#'] rest with
    | some (before, fragment) => (before, some fragment)
    | none => (rest, none)
  let (before, query) := match Text.splitAtMark? ['?'] before with
    | some (before, query) => (before, some query)
    | none => (before, none)
  let (host, path) := before.span fun c => c != '/' && c != '\\'
  let authority ← authority? scheme host
  let shown (mark : String) (reserved : List Char) : Option (List Char) → String
    | some cs => mark ++ percentEncode reserved cs
    | none => ""
  return scheme ++ "://" ++ authority ++ normalPath path
    ++ shown "?" queryReserved query ++ shown "#" fragmentReserved fragment

end CodeGraph.Url
