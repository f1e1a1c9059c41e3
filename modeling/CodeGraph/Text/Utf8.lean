/-! # Text from bytes

The text that bytes write in UTF-8. Where they write none, each longest run of bytes that begins a
character without ending it, and each byte that begins none, is read as one replacement
character. -/

namespace CodeGraph.Text

/-- The character that stands for bytes that write none. -/
def replacement : Char := '\uFFFD'

/-- Whether a byte goes on with a character. -/
def isContinuation (b : UInt8) : Bool := 0x80 ≤ b && b ≤ 0xBF

/-- The low bits of a byte that goes on with a character. -/
def continuationBits (b : UInt8) : Nat := b.toNat % 64

/-- Whether two bytes begin a character of three. -/
def opensThree (a b : UInt8) : Bool :=
  (a == 0xE0 && 0xA0 ≤ b && b ≤ 0xBF) || (0xE1 ≤ a && a ≤ 0xEC && isContinuation b)
    || (a == 0xED && 0x80 ≤ b && b ≤ 0x9F) || (0xEE ≤ a && a ≤ 0xEF && isContinuation b)

/-- Whether two bytes begin a character of four. -/
def opensFour (a b : UInt8) : Bool :=
  (a == 0xF0 && 0x90 ≤ b && b ≤ 0xBF) || (0xF1 ≤ a && a ≤ 0xF3 && isContinuation b)
    || (a == 0xF4 && 0x80 ≤ b && b ≤ 0x8F)

/-- The characters that bytes write, with replacements. -/
def decodeLossy : List UInt8 → List Char
  | [] => []
  | a :: rest =>
    if a < 0x80 then Char.ofNat a.toNat :: decodeLossy rest
    else match rest with
    | [] => [replacement]
    | b :: rest₁ =>
      if 0xC2 ≤ a && a ≤ 0xDF && isContinuation b then
        Char.ofNat (a.toNat % 32 * 64 + continuationBits b) :: decodeLossy rest₁
      else if opensThree a b then
        match rest₁ with
        | [] => [replacement]
        | c :: rest₂ =>
          if isContinuation c then
            Char.ofNat (a.toNat % 16 * 4096 + continuationBits b * 64 + continuationBits c)
              :: decodeLossy rest₂
          else replacement :: decodeLossy (c :: rest₂)
      else if opensFour a b then
        match rest₁ with
        | [] => [replacement]
        | c :: rest₂ =>
          if isContinuation c then
            match rest₂ with
            | [] => [replacement]
            | d :: rest₃ =>
              if isContinuation d then
                Char.ofNat (a.toNat % 8 * 262144 + continuationBits b * 4096
                  + continuationBits c * 64 + continuationBits d) :: decodeLossy rest₃
              else replacement :: decodeLossy (d :: rest₃)
          else replacement :: decodeLossy (c :: rest₂)
      else replacement :: decodeLossy (b :: rest₁)
termination_by bs => bs.length

/-- The text that bytes write, with replacements. -/
def ofUtf8Lossy (bytes : ByteArray) : String :=
  match String.fromUTF8? bytes with
  | some s => s
  | none => String.ofList (decodeLossy bytes.toList)

end CodeGraph.Text
