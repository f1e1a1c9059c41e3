import Mathlib.Data.List.Lex
import Mathlib.Data.String.Basic

/-! # Texts as bytes

Texts are compared character by character. Their bytes in UTF-8 are in the same order
(`Text.lt_iff_bytes`): of two characters the larger one begins with a larger byte, or it begins with
the same byte and a later one decides, before either of them ends (`Text.lex_utf8EncodeChar`). From
its bytes a text is read again (`Text.fromUTF8?_toUTF8`), and it can be cut at a byte if a character
begins there (`Text.sliceFrom?_append`, `Text.sliceTo?_append`). -/

namespace CodeGraph.Text

/-! ## Decoding -/

/-- The bytes of a text are those of a text, and of no other one. -/
theorem fromUTF8?_toUTF8 (s : String) : String.fromUTF8? s.toUTF8 = some s := by
  have hvalid : s.toUTF8.IsValidUTF8 := s.isValidUTF8
  rw [String.fromUTF8?, dif_pos hvalid]
  rfl

/-! ## Cutting -/

/-- The text from a byte on; `none` if there is no boundary between characters before that byte. -/
def sliceFrom? (s : String) (start : Nat) : Option String :=
  if h : String.Pos.Raw.IsValid s ⟨start⟩ then some (s.sliceFrom ⟨⟨start⟩, h⟩).copy else none

/-- The text up to a byte; `none` if there is no boundary between characters before that byte. -/
def sliceTo? (s : String) (stop : Nat) : Option String :=
  if h : String.Pos.Raw.IsValid s ⟨stop⟩ then some (s.sliceTo ⟨⟨stop⟩, h⟩).copy else none

/-- The end of the first of two texts is a boundary between characters. -/
theorem isValid_append (a b : String) : String.Pos.Raw.IsValid (a ++ b) ⟨a.utf8ByteSize⟩ :=
  String.Pos.Raw.isValid_iff_exists_append.2 ⟨a, b, rfl, rfl⟩

/-- The end of the first of two texts cuts them apart. -/
theorem splits_append (a b : String) :
    String.Pos.Splits (⟨⟨a.utf8ByteSize⟩, isValid_append a b⟩ : (a ++ b).Pos) a b := ⟨rfl, rfl⟩

/-- From the end of the first of two texts on, `sliceFrom?` gives the second one. -/
theorem sliceFrom?_append (a b : String) : sliceFrom? (a ++ b) a.utf8ByteSize = some b := by
  rw [sliceFrom?, dif_pos (isValid_append a b), (splits_append a b).copy_sliceFrom_eq]

/-- Up to the end of the first of two texts, `sliceTo?` gives it. -/
theorem sliceTo?_append (a b : String) : sliceTo? (a ++ b) a.utf8ByteSize = some a := by
  rw [sliceTo?, dif_pos (isValid_append a b), (splits_append a b).copy_sliceTo_eq]

/-! ## The order of bytes -/

/-- The bytes of a text. -/
def bytes (s : String) : List UInt8 := s.toUTF8.data.toList

/-- The bytes of a text are those of its characters, one after the other. -/
theorem bytes_eq (s : String) : bytes s = s.toList.flatMap String.utf8EncodeChar := by
  have h : s.toUTF8 = s.toList.utf8Encode := by
    rw [String.toUTF8_eq_toByteArray, ← String.toByteArray_ofList, String.ofList_toList]
  rw [bytes, h, List.utf8Encode]
  simp

/-- **One character**: the bytes of the larger one are larger, whatever follows them. -/
theorem lex_utf8EncodeChar {c d : Char} (h : c < d) (x y : List UInt8) :
    List.Lex (· < ·) (String.utf8EncodeChar c ++ x) (String.utf8EncodeChar d ++ y) := by
  have hlt : c.val.toNat < d.val.toNat := h
  have hbound : d.val.toNat < 1114112 := by
    rcases d.valid with hd | ⟨-, hd⟩ <;> omega
  simp only [String.utf8EncodeChar]
  generalize c.val.toNat = v at hlt
  generalize d.val.toNat = w at hlt hbound
  -- the digits to the base 64 by which a number is written come from its quotients
  have hdiv : ∀ n, n / 64 / 64 = n / 4096 ∧ n / 4096 / 64 = n / 262144 := fun n =>
    ⟨Nat.div_div_eq_div_mul n 64 64, Nat.div_div_eq_div_mul n 4096 64⟩
  obtain ⟨hv, hv'⟩ := hdiv v
  obtain ⟨hw, hw'⟩ := hdiv w
  have hfirst : v / 262144 % 8 = v / 262144 ∧ w / 262144 % 8 = w / 262144 := by omega
  have hbyte : ∀ n, n < 256 → (UInt8.ofNat n).toNat = n := fun n hn => by
    rw [UInt8.toNat_ofNat', Nat.mod_eq_of_lt hn]
  split_ifs <;>
    simp (disch := omega) only [List.cons_append, List.nil_append, List.cons_lex_cons_iff,
      UInt8.lt_iff_toNat_lt, ← UInt8.toNat_inj, hbyte]
  all_goals omega

/-- Texts in the order of their characters are in the order of their bytes. -/
theorem lex_bytes_of_lt {a b : String} (h : a < b) :
    List.Lex (· < ·) (bytes a) (bytes b) := by
  have hchars : List.Lex (· < ·) a.toList b.toList := String.lt_iff_toList_lt.1 h
  rw [bytes_eq, bytes_eq]
  generalize a.toList = cs, b.toList = ds at hchars
  induction hchars with
  | @nil d ds =>
    have hne : String.utf8EncodeChar d ≠ [] := String.utf8EncodeChar_ne_nil
    obtain ⟨byte, rest, hbytes⟩ := List.exists_cons_of_ne_nil hne
    rw [List.flatMap_nil, List.flatMap_cons, hbytes]
    exact .nil
  | cons _ ih =>
    rw [List.flatMap_cons, List.flatMap_cons]
    exact List.Lex.append_left _ ih _
  | rel h =>
    rw [List.flatMap_cons, List.flatMap_cons]
    exact lex_utf8EncodeChar h _ _

/-- **Texts are in the order of their bytes.** -/
theorem lt_iff_bytes {a b : String} : a < b ↔ List.Lex (· < ·) (bytes a) (bytes b) := by
  refine ⟨lex_bytes_of_lt, fun h => ?_⟩
  rcases lt_trichotomy a b with hlt | rfl | hgt
  · exact hlt
  · exact absurd h (List.lt_irrefl _)
  · exact absurd (lex_bytes_of_lt hgt) (List.lt_asymm h)

end CodeGraph.Text
