import CodeGraph.Json.Printer
import CodeGraph.Json.Token
import Mathlib.Data.List.TakeDrop
import Mathlib.Data.List.TakeWhile

/-! # Texts are read as the tokens that they write

A text writes a list of tokens if it has the tokens one after the other, with blanks where they may
be (`Token.Writes`). Such a text is cut into the tokens that it writes (`Token.Writes.ofText?_eq`).
A word or a number is known to end only by the character after it; so each token is read together
with the rest of the text, which must not go on with it (`Token.after?_spelling`).

The characters of a string are read one at a time. Whatever a character is, the escape that stands
for it gives it back (`Token.after?_escapedChar`). -/

namespace CodeGraph.Json.Token

/-! ## The rest of a text -/

/-- The tokens of a text of which a part was read before. -/
def after? (l : Lexing) (cs : List Char) : Option (List Token) := (cs.foldlM step l).bind finish?

/-- Reading a text from its start is reading it after nothing. -/
theorem ofText?_eq_after? (text : String) : ofText? text = after? {} text.toList := rfl

/-- One step of the reader: a character that is accepted moves on to the rest of the text. -/
theorem after?_cons {l l' : Lexing} {c : Char} (h : step l c = some l') (cs : List Char) :
    after? l (c :: cs) = after? l' cs := by
  rw [after?, List.foldlM_cons, h]
  rfl

/-- Whether a text does not go on with a word or a number. -/
def Ends (cs : List Char) : Prop :=
  ∀ c, cs.head? = some c → c.isAlpha = false ∧ isNumberChar c = false

/-- The end of a text goes on with no word or number. -/
theorem ends_nil : Ends [] := by
  intro c hc
  cases hc

/-- A text does not go on with a word or a number if its first character is part of neither. -/
theorem ends_cons {c : Char} {cs : List Char} :
    Ends (c :: cs) ↔ c.isAlpha = false ∧ isNumberChar c = false := by
  simp [Ends]

/-- At a character that does not go on with a word, the word is complete. -/
theorem after?_word {done : List Token} {w rest : List Char} {t : Token}
    (hw : word? w.reverse = some t) (hrest : Ends rest) :
    after? ⟨done, .word w⟩ rest = after? ⟨t :: done, .between⟩ rest := by
  cases rest with
  | nil => simp [after?, finish?, hw]
  | cons c cs =>
    have hstep : step ⟨done, .word w⟩ c = step ⟨t :: done, .between⟩ c := by
      simp [step, (ends_cons.1 hrest).1, hw]
    rw [after?, List.foldlM_cons, hstep]
    rfl

/-- At a character that does not go on with a number, the number is complete. -/
theorem after?_number {done : List Token} {ds rest : List Char} {n : JsonNumber}
    (hn : number? ds.reverse = some n) (hrest : Ends rest) :
    after? ⟨done, .number ds⟩ rest = after? ⟨.number n :: done, .between⟩ rest := by
  cases rest with
  | nil => simp [after?, finish?, hn]
  | cons c cs =>
    have hstep : step ⟨done, .number ds⟩ c = step ⟨.number n :: done, .between⟩ c := by
      simp [step, (ends_cons.1 hrest).2, hn]
    rw [after?, List.foldlM_cons, hstep]
    rfl

/-! ## Strings -/

/-- A hexadecimal digit is read back as the number it was written for. -/
theorem hexValue?_hexDigit : ∀ n < 16, Text.hexValue? (hexDigit n) = some n := by decide

/-- A control character is read from its number. -/
theorem after?_control {c : Char} (h : c.toNat < 32) (done : List Token) (s rest : List Char) :
    after? ⟨done, .string s⟩ (['\\', 'u', '0', '0', hexDigit (c.toNat / 16),
      hexDigit (c.toNat % 16)] ++ rest) = after? ⟨done, .string (c :: s)⟩ rest := by
  have hhigh := hexValue?_hexDigit (c.toNat / 16) (by omega)
  have hlow := hexValue?_hexDigit (c.toNat % 16) (by omega)
  have hvalue : 16 * (c.toNat / 16) + c.toNat % 16 = c.toNat := by omega
  -- the two zeros leave the value at zero, so that the last two digits are the whole of it
  have hfirst : step ⟨done, .code s none 2 0⟩ (hexDigit (c.toNat / 16))
      = some ⟨done, .code s none 1 (c.toNat / 16)⟩ := by
    simp [step, hhigh]
  have hlast : step ⟨done, .code s none 1 (c.toNat / 16)⟩ (hexDigit (c.toNat % 16))
      = some ⟨done, .string (c :: s)⟩ := by
    have hmode : endCode? s none c.toNat = some (.string (c :: s)) := by
      have hpair : ¬ 0xD800 ≤ c.toNat := by omega
      have hhalf : ¬ 0xDC00 ≤ c.toNat := by omega
      simp [endCode?, hpair, hhalf, Char.ofNat_toNat]
    simp [step, hlow, hvalue, hmode]
  calc after? ⟨done, .string s⟩ (['\\', 'u', '0', '0', hexDigit (c.toNat / 16),
        hexDigit (c.toNat % 16)] ++ rest)
      = after? ⟨done, .code s none 2 0⟩
          (hexDigit (c.toNat / 16) :: hexDigit (c.toNat % 16) :: rest) := rfl
    _ = after? ⟨done, .string (c :: s)⟩ rest := by rw [after?_cons hfirst, after?_cons hlast]

/-- **One character**: what stands for it in a text gives it back. -/
theorem after?_escapedChar (c : Char) (done : List Token) (s rest : List Char) :
    after? ⟨done, .string s⟩ (escapedChar c ++ rest) = after? ⟨done, .string (c :: s)⟩ rest := by
  unfold escapedChar
  split
  case h_8 hquote hbackslash _ _ _ _ _ =>
    by_cases hcontrol : c.toNat < 32
    · rw [if_pos hcontrol]
      exact after?_control hcontrol done s rest
    · rw [if_neg hcontrol]
      refine after?_cons ?_ rest
      simp [step, hcontrol, show c ≠ '"' from hquote, show c ≠ '\\' from hbackslash]
  all_goals rfl

/-- **All characters**, one after the other. -/
theorem after?_escaped (cs : List Char) (done : List Token) (s rest : List Char) :
    after? ⟨done, .string s⟩ (cs.flatMap escapedChar ++ rest)
      = after? ⟨done, .string (cs.reverse ++ s)⟩ rest := by
  induction cs generalizing s with
  | nil => rfl
  | cons c cs ih =>
    rw [List.flatMap_cons, List.append_assoc, after?_escapedChar, ih, List.reverse_cons,
      List.append_assoc]
    rfl

/-- **A quoted string is read as its token**, all of its escapes undone. -/
theorem after?_quote (s : String) (done : List Token) (rest : List Char) :
    after? ⟨done, .between⟩ ((quote s).toList ++ rest)
      = after? ⟨.string s :: done, .between⟩ rest := by
  have htext : (quote s).toList ++ rest
      = '"' :: (s.toList.flatMap escapedChar ++ '"' :: rest) := by
    simp [quote]
  have hopen : step ⟨done, .between⟩ '"' = some ⟨done, .string []⟩ := rfl
  have hclose : step ⟨done, .string (s.toList.reverse ++ [])⟩ '"'
      = some ⟨.string s :: done, .between⟩ := by
    simp [step]
  rw [htext, after?_cons hopen, after?_escaped, after?_cons hclose]

/-! ## Numbers -/

/-- Only zero begins with a zero. -/
theorem head?_toDigits {n : Nat} (h : 10 ≤ n) : (Nat.toDigits 10 n).head? ≠ some '0' := by
  induction n using Nat.strongRecOn with
  | ind n ih =>
    have hhead : (Nat.toDigits 10 n).head? = (Nat.toDigits 10 (n / 10)).head? := by
      have hne : Nat.toDigits 10 (n / 10) ≠ [] := Nat.toDigits_ne_nil
      obtain ⟨d, ds, hds⟩ := List.exists_cons_of_ne_nil hne
      rw [Nat.toDigits_of_base_le (by omega) h, hds]
      rfl
    rw [hhead]
    by_cases hsmall : n / 10 < 10
    · have hdigit : ∀ d < 10, 0 < d → Nat.digitChar d ≠ '0' := by decide
      rw [Nat.toDigits_of_lt_base hsmall]
      simpa using hdigit (n / 10) hsmall (by omega)
    · exact ih (n / 10) (by omega) (by omega)

/-- A run of digits is taken whole. -/
theorem digits_eq {ds : List Char} (h : ∀ c ∈ ds, c.isDigit) : digits ds = (ds, []) := by
  rw [digits, List.span_eq_takeWhile_dropWhile, List.takeWhile_eq_self_iff.2 h,
    List.dropWhile_eq_nil_iff.2 h]

/-- The decimal digits of a number are a whole part alone: there is no leading zero among them. -/
theorem parts?_toDigits (n : Nat) :
    parts? (Nat.toDigits 10 n) = some (Nat.toDigits 10 n, none, none) := by
  have hdigit : ∀ c ∈ Nat.toDigits 10 n, c.isDigit := fun c hc =>
    Nat.isDigit_of_mem_toDigits (by omega) (by omega) hc
  have hne : Nat.toDigits 10 n ≠ [] := Nat.toDigits_ne_nil
  have hzero : 1 < (Nat.toDigits 10 n).length → (Nat.toDigits 10 n).head? ≠ some '0' := by
    intro hlength
    by_cases hn : 10 ≤ n
    · exact head?_toDigits hn
    · rw [Nat.toDigits_of_lt_base (by omega)] at hlength
      simp at hlength
  simpa [parts?, digits_eq hdigit, hne] using hzero

/-- The value of the decimal digits of a number is the number. -/
theorem digitsValue_toDigits (n : Nat) : digitsValue (Nat.toDigits 10 n) = n := by
  have hten := Nat.ofDigitChars_ten_toDigits (n := n)
  rw [Nat.ofDigitChars_eq_foldl] at hten
  exact hten

/-- A number that fits in 64 bits is not too large for a floating-point one. -/
theorem isTooLarge_of_lt {n : Nat} (h : n < wordSize) : isTooLarge n 0 = false := by
  have hword : wordSize < 10 ^ 20 := by decide +kernel
  have hlength : (Nat.toDigits 10 n).length ≤ 20 :=
    (Nat.length_toDigits_le_iff (by omega) (by omega)).2 (by omega)
  have hnotAbove : ¬ (Nat.toDigits 10 n).length + (0 : Int) > 310 := by omega
  have hbelow : (Nat.toDigits 10 n).length + (0 : Int) < 300 := by omega
  unfold isTooLarge
  split
  · rfl
  · dsimp only
    rw [if_neg hnotAbove, if_pos hbelow]

/-- The digits of a number of 64 bits are read as the number. -/
theorem number?_toDigits {n : Nat} (h : n < wordSize) :
    number? (Nat.toDigits 10 n) = some (.whole n) := by
  have hsign : ∀ rest, Nat.toDigits 10 n ≠ '-' :: rest := by
    intro rest hrest
    have hminus : '-'.isDigit :=
      Nat.isDigit_of_mem_toDigits (by omega) (by omega) (hrest ▸ List.mem_cons_self ..)
    revert hminus
    decide
  rw [number?]
  · simp [parts?_toDigits, digitsValue_toDigits, isTooLarge_of_lt h]
  · exact hsign

/-! ## Spelling -/

/-- The text of a token. -/
def spelling : Token → List Char
  | null => "null".toList
  | bool true => "true".toList
  | bool false => "false".toList
  | number n => (numberText n).toList
  | string s => (quote s).toList
  | arrayOpen => ['[']
  | arrayClose => [']']
  | objectOpen => ['\x7b']
  | objectClose => ['\x7d']
  | comma => [',']
  | colon => [':']

/-- Whether a token can be read where it is followed by a text: a word or a number must not go on,
and a number must fit in 64 bits. -/
def Legible (rest : List Char) : Token → Prop
  | null | bool _ => Ends rest
  | number n => (∃ k : Nat, k < wordSize ∧ n = .whole k) ∧ Ends rest
  | _ => True

/-- Digits go on with a number. -/
theorem after?_digits {ds : List Char} (h : ∀ c ∈ ds, c.isDigit) (done : List Token)
    (before rest : List Char) :
    after? ⟨done, .number before⟩ (ds ++ rest)
      = after? ⟨done, .number (ds.reverse ++ before)⟩ rest := by
  induction ds generalizing before with
  | nil => rfl
  | cons d ds ih =>
    rw [List.forall_mem_cons] at h
    have hstep : step ⟨done, .number before⟩ d = some ⟨done, .number (d :: before)⟩ := by
      simp [step, isNumberChar, h.1]
    rw [List.cons_append, after?_cons hstep, ih h.2, List.reverse_cons, List.append_assoc]
    rfl

/-- A digit is neither a blank nor a quotation mark. -/
theorem not_isBlank_of_isDigit {c : Char} (h : c.isDigit) : isBlank c = false ∧ c ≠ '"' := by
  constructor
  · by_contra hblank
    simp only [isBlank, Bool.not_eq_false, Bool.or_eq_true, beq_iff_eq] at hblank
    rcases hblank with ((rfl | rfl) | rfl) | rfl <;> exact absurd h (by decide)
  · rintro rfl
    exact absurd h (by decide)

/-- A whole number is written by its decimal digits. -/
theorem toList_numberText (n : Nat) : (numberText (.whole n)).toList = Nat.toDigits 10 n := by
  have htext : numberText (.whole n) = toString n := rfl
  rw [htext, Nat.toString_eq_ofList_toDigits, String.toList_ofList]

/-- **A whole number is read as its token**, before any text that does not go on with it. -/
theorem after?_whole {n : Nat} (h : n < wordSize) (done : List Token) {rest : List Char}
    (hrest : Ends rest) :
    after? ⟨done, .between⟩ ((numberText (.whole n)).toList ++ rest)
      = after? ⟨.number (.whole n) :: done, .between⟩ rest := by
  have hdigit : ∀ c ∈ Nat.toDigits 10 n, c.isDigit := fun c hc =>
    Nat.isDigit_of_mem_toDigits (by omega) (by omega) hc
  have hread := number?_toDigits h
  rw [toList_numberText]
  obtain ⟨d, ds, hds⟩ := List.exists_cons_of_ne_nil (Nat.toDigits_ne_nil (n := n) (b := 10))
  rw [hds] at hdigit hread ⊢
  rw [List.forall_mem_cons] at hdigit
  -- the first digit begins the number, and the others go on with it
  have hstep : step ⟨done, .between⟩ d = some ⟨done, .number [d]⟩ := by
    obtain ⟨hblank, hquote⟩ := not_isBlank_of_isDigit hdigit.1
    simp [step, begin?, hblank, hquote, hdigit.1]
  have hall : number? (ds.reverse ++ [d]).reverse = some (.whole n) := by
    simpa using hread
  rw [List.cons_append, after?_cons hstep, after?_digits hdigit.2, after?_number hall hrest]

/-- **One token**: its text is read as the token. -/
theorem after?_spelling {t : Token} {rest : List Char} (h : t.Legible rest) (done : List Token) :
    after? ⟨done, .between⟩ (t.spelling ++ rest) = after? ⟨t :: done, .between⟩ rest := by
  cases t with
  | null => exact after?_word (w := "llun".toList) rfl h
  | bool b =>
    cases b with
    | true => exact after?_word (w := "eurt".toList) rfl h
    | false => exact after?_word (w := "eslaf".toList) rfl h
  | number n =>
    obtain ⟨⟨k, hk, rfl⟩, hrest⟩ := h
    exact after?_whole hk done hrest
  | string s => exact after?_quote s done rest
  | _ => rfl

/-! ## Texts -/

/-- **A text writes tokens**: they stand in it one after the other, with blanks where they may
be. -/
inductive Writes : List Token → List Char → Prop where
  | nil : Writes [] []
  | blank {ts : List Token} {c : Char} {cs : List Char} (hc : isBlank c) (h : Writes ts cs) :
    Writes ts (c :: cs)
  | token {t : Token} {ts : List Token} {cs : List Char} (ht : t.Legible cs) (h : Writes ts cs) :
    Writes (t :: ts) (t.spelling ++ cs)

/-- What a text writes is read, whatever was read before. -/
theorem Writes.after?_eq {ts : List Token} {cs : List Char} (h : Writes ts cs) (done : List Token) :
    after? ⟨done, .between⟩ cs = some (done.reverse ++ ts) := by
  induction h generalizing done with
  | nil => simp [after?, finish?]
  | blank hc _ ih =>
    have hstep : step ⟨done, .between⟩ _ = some ⟨done, .between⟩ := if_pos hc
    rw [after?_cons hstep, ih]
  | token ht _ ih =>
    rw [after?_spelling ht, ih, List.reverse_cons, List.append_assoc]
    rfl

/-- **A text is cut into the tokens that it writes.** -/
theorem Writes.ofText?_eq {ts : List Token} {text : String} (h : Writes ts text.toList) :
    ofText? text = some ts := by
  rw [ofText?_eq_after?]
  exact h.after?_eq []

/-- Blanks may be put before any text that writes tokens. -/
theorem Writes.blanks {ts : List Token} {gap cs : List Char} (hgap : ∀ c ∈ gap, isBlank c)
    (h : Writes ts cs) : Writes ts (gap ++ cs) := by
  induction gap with
  | nil => exact h
  | cons c gap ih =>
    rw [List.forall_mem_cons] at hgap
    exact .blank hgap.1 (ih hgap.2)

end CodeGraph.Json.Token
