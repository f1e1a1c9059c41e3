import CodeGraph.Json.Reader
import CodeGraph.Proofs.Json.Tokens
import Mathlib.Data.List.Forall2

/-! # Values are read back from their texts

A value has a list of tokens, whichever way it is printed (`Json.tokens`). Both ways to print it
write these tokens (`Readable.writtenBy_prettyAt`, `Readable.writtenBy_compact`), and from these
tokens the value is read back (`Readable.reads`). So a value that is printed is read back as it was
(`Readable.parse?_pretty`, `Readable.parse?_compact`), provided that it is no deeper than a reader
goes and that its numbers fit in 64 bits (`Json.Readable`). -/

namespace CodeGraph.Json

open Token

/-! ## Tokens of a value -/

mutual
/-- The tokens of a value. -/
def tokens : Json → List Token
  | .null => [.null]
  | .bool b => [.bool b]
  | .number n => [.number n]
  | .string s => [.string s]
  | .array [] => [.arrayOpen, .arrayClose]
  | .array (x :: xs) => .arrayOpen :: (tokens x ++ itemTokens xs ++ [.arrayClose])
  | .object [] => [.objectOpen, .objectClose]
  | .object ((k, v) :: fs) =>
    .objectOpen :: .string k :: .colon :: (tokens v ++ fieldTokens fs ++ [.objectClose])

/-- The tokens of the items after the first. -/
def itemTokens : List Json → List Token
  | [] => []
  | x :: xs => .comma :: (tokens x ++ itemTokens xs)

/-- The tokens of the fields after the first. -/
def fieldTokens : List (String × Json) → List Token
  | [] => []
  | (k, v) :: fs => .comma :: .string k :: .colon :: (tokens v ++ fieldTokens fs)
end

/-- Whether a value can be read where so many arrays and objects may be opened: it has no more of
them inside each other, and its numbers are whole and fit in 64 bits. -/
inductive Readable : Nat → Json → Prop where
  | null (d : Nat) : Readable d .null
  | bool (d : Nat) (b : Bool) : Readable d (.bool b)
  | nat (d : Nat) {n : Nat} (h : n < wordSize) : Readable d (.nat n)
  | string (d : Nat) (s : String) : Readable d (.string s)
  | array {d : Nat} {items : List Json} (h : ∀ x ∈ items, Readable d x) :
    Readable (d + 1) (.array items)
  | object {d : Nat} {fields : List (String × Json)} (h : ∀ f ∈ fields, Readable d f.2) :
    Readable (d + 1) (.object fields)

/-! ## Reading -/

namespace Reading

variable {parts : List OpenPart} {ts : List Token}

/-- Whether a value is read from the tokens of a list, wherever it may stand: as the first item of
an array or elsewhere. -/
def Reads (parts : List OpenPart) (j : Json) : Prop :=
  ∀ (e : Expecting) (ts : List Token), e = .value ∨ e = .firstItem →
    (j.tokens ++ ts).foldlM step ⟨parts, e⟩ = ts.foldlM step ⟨parts, .after j⟩

/-- Items after the first are added to an open array, which is then closed. -/
theorem foldlM_itemTokens {items : List Json} {v : Json} {xs : List Json}
    (h : ∀ items, ∀ x ∈ xs, Reads (.array items :: parts) x) :
    (itemTokens xs ++ .arrayClose :: ts).foldlM step ⟨.array items :: parts, .after v⟩
      = ts.foldlM step ⟨parts, .after (.array (items.reverse ++ v :: xs))⟩ := by
  induction xs generalizing items v with
  | nil => simp [itemTokens, step, afterValue]
  | cons x xs ih =>
    have hx := h (v :: items) x (List.mem_cons_self ..) .value
      (itemTokens xs ++ .arrayClose :: ts) (.inl rfl)
    calc (itemTokens (x :: xs) ++ .arrayClose :: ts).foldlM step ⟨.array items :: parts, .after v⟩
        = (x.tokens ++ (itemTokens xs ++ .arrayClose :: ts)).foldlM step
            ⟨.array (v :: items) :: parts, .value⟩ := by
          rw [itemTokens, List.cons_append, List.append_assoc]
          rfl
      _ = ts.foldlM step ⟨parts, .after (.array (items.reverse ++ v :: x :: xs))⟩ := by
          rw [hx, ih fun items y hy => h items y (List.mem_cons_of_mem x hy), List.reverse_cons,
            List.append_assoc]
          rfl

/-- Fields after the first are added to an open object, which is then closed. -/
theorem foldlM_fieldTokens {fields fs : List (String × Json)} {k : String} {v : Json}
    (h : ∀ fields k, ∀ f ∈ fs, Reads (.object fields k :: parts) f.2) :
    (fieldTokens fs ++ .objectClose :: ts).foldlM step ⟨.object fields k :: parts, .after v⟩
      = ts.foldlM step ⟨parts, .after (.object (fields.reverse ++ (k, v) :: fs))⟩ := by
  induction fs generalizing fields k v with
  | nil => simp [fieldTokens, step, afterValue]
  | cons f fs ih =>
    obtain ⟨k', v'⟩ := f
    have hv := h ((k, v) :: fields) k' (k', v') (List.mem_cons_self ..) .value
      (fieldTokens fs ++ .objectClose :: ts) (.inl rfl)
    calc (fieldTokens ((k', v') :: fs) ++ .objectClose :: ts).foldlM step
          ⟨.object fields k :: parts, .after v⟩
        = (v'.tokens ++ (fieldTokens fs ++ .objectClose :: ts)).foldlM step
            ⟨.object ((k, v) :: fields) k' :: parts, .value⟩ := by
          rw [fieldTokens, List.cons_append, List.cons_append, List.cons_append, List.append_assoc]
          rfl
      _ = ts.foldlM step
            ⟨parts, .after (.object (fields.reverse ++ (k, v) :: (k', v') :: fs))⟩ := by
          rw [hv, ih fun fields k f hf => h fields k f (List.mem_cons_of_mem _ hf),
            List.reverse_cons, List.append_assoc]
          rfl

end Reading

/-- **A value is read from its tokens**, where the arrays and objects that are open leave room for
it. -/
theorem Readable.reads {d : Nat} {j : Json} (h : Readable d j) {parts : List OpenPart}
    (hroom : parts.length + d ≤ Reading.maxDepth) : Reading.Reads parts j := by
  induction h generalizing parts with
  | null d =>
    rintro e ts (rfl | rfl) <;> rfl
  | bool d b =>
    rintro e ts (rfl | rfl) <;> rfl
  | nat d h =>
    rintro e ts (rfl | rfl) <;> rfl
  | string d s =>
    rintro e ts (rfl | rfl) <;> rfl
  | @array d items _ ih =>
    -- opening takes one level of the depth that is left, which the items do not need
    intro e ts he
    have hopen : Reading.step ⟨parts, e⟩ .arrayOpen = some ⟨.array [] :: parts, .firstItem⟩ := by
      have hpush : Reading.push ⟨parts, e⟩ (.array [] :: parts) .firstItem
          = some ⟨.array [] :: parts, .firstItem⟩ := if_pos (by dsimp only; omega)
      rcases he with rfl | rfl <;> exact hpush
    have hinside : ∀ part : OpenPart, ∀ x ∈ items, Reading.Reads (part :: parts) x :=
      fun part x hx => ih x hx (by rw [List.length_cons]; omega)
    cases items with
    | nil =>
      rw [tokens, List.cons_append, List.foldlM_cons, hopen]
      rfl
    | cons x xs =>
      have hfirst := hinside (.array []) x (List.mem_cons_self ..) .firstItem
        (itemTokens xs ++ .arrayClose :: ts) (.inr rfl)
      rw [tokens, List.cons_append, List.foldlM_cons, hopen, List.append_assoc, List.append_assoc]
      exact hfirst.trans
        (Reading.foldlM_itemTokens fun _ y hy => hinside _ y (List.mem_cons_of_mem x hy))
  | @object d fields _ ih =>
    intro e ts he
    have hopen : Reading.step ⟨parts, e⟩ .objectOpen = some ⟨parts, .firstKey []⟩ := by
      have hpush : Reading.push ⟨parts, e⟩ parts (.firstKey []) = some ⟨parts, .firstKey []⟩ :=
        if_pos (by dsimp only; omega)
      rcases he with rfl | rfl <;> exact hpush
    have hinside : ∀ part : OpenPart, ∀ f ∈ fields, Reading.Reads (part :: parts) f.2 :=
      fun part f hf => ih f hf (by rw [List.length_cons]; omega)
    cases fields with
    | nil =>
      rw [tokens, List.cons_append, List.foldlM_cons, hopen]
      rfl
    | cons f fs =>
      obtain ⟨k, v⟩ := f
      have hfirst := hinside (.object [] k) (k, v) (List.mem_cons_self ..) .value
        (fieldTokens fs ++ .objectClose :: ts) (.inl rfl)
      rw [tokens, List.cons_append, List.foldlM_cons, hopen, List.cons_append, List.cons_append,
        List.append_assoc, List.append_assoc]
      exact hfirst.trans
        (Reading.foldlM_fieldTokens fun _ _ f hf => hinside _ f (List.mem_cons_of_mem _ hf))

/-- **A text that writes the tokens of a value** is read as the value. -/
theorem Readable.parse?_eq {j : Json} (h : Readable Reading.maxDepth j) {text : String}
    (htext : Writes j.tokens text.toList) : parse? text = some j := by
  have hreads : Reading.Reads [] j := h.reads (by rw [List.length_nil]; omega)
  have hstart : j.tokens.foldlM Reading.step {} = some ⟨[], .after j⟩ := by
    have hall := hreads .value [] (.inl rfl)
    rwa [List.append_nil] at hall
  rw [parse?, htext.ofText?_eq]
  simp only [Option.bind_eq_bind, Option.bind_some, hstart]
  rfl

/-! ## Printing -/

/-- Whether a text writes a value, before any text that does not go on with it. -/
def WrittenBy (j : Json) (cs : List Char) : Prop :=
  ∀ (ts : List Token) (rest : List Char), Ends rest → Writes ts rest →
    Writes (j.tokens ++ ts) (cs ++ rest)

/-- A value without parts is written by its token. -/
theorem writtenBy_of_tokens {j : Json} {t : Token} (hj : j.tokens = [t])
    (ht : ∀ rest, Ends rest → t.Legible rest) : j.WrittenBy t.spelling := by
  intro ts rest hends hrest
  rw [hj]
  exact .token (ht rest hends) hrest

section Parts

variable {p : Json → List Char} {gap space : List Char}

/-- Items after the first, each after a comma and a gap. -/
def itemsText (p : Json → List Char) (gap : List Char) (xs : List Json) : List Char :=
  xs.flatMap fun x => ',' :: (gap ++ p x)

/-- Fields after the first, each after a comma and a gap, with a space after its name. -/
def fieldsText (p : Json → List Char) (gap space : List Char) (fs : List (String × Json)) :
    List Char :=
  fs.flatMap fun f => ',' :: (gap ++ ((quote f.1).toList ++ ':' :: (space ++ p f.2)))

/-- Blanks do not go on with anything. -/
theorem ends_blanks {rest : List Char} (hgap : ∀ c ∈ gap, isBlank c) (hrest : Ends rest) :
    Ends (gap ++ rest) := by
  cases gap with
  | nil => exact hrest
  | cons c gap =>
    have hc := hgap c (List.mem_cons_self ..)
    simp only [isBlank, Bool.or_eq_true, beq_iff_eq] at hc
    rcases hc with ((rfl | rfl) | rfl) | rfl <;> exact ends_cons.2 (by decide)

/-- A list of texts that each begin with a comma does not go on with what stands before it. -/
theorem ends_flatMap {α : Type} {f : α → List Char} (hf : ∀ x, ∃ cs, f x = ',' :: cs)
    (xs : List α) {rest : List Char} (hrest : Ends rest) : Ends (xs.flatMap f ++ rest) := by
  cases xs with
  | nil => exact hrest
  | cons x xs =>
    obtain ⟨cs, hcs⟩ := hf x
    rw [List.flatMap_cons, hcs]
    exact ends_cons.2 (by decide)

/-- The items of an array after the first one write their tokens, by induction on the items. -/
theorem writes_itemsText (hgap : ∀ c ∈ gap, isBlank c) {xs : List Json}
    (h : ∀ x ∈ xs, x.WrittenBy (p x)) {ts : List Token} {rest : List Char} (hends : Ends rest)
    (hrest : Writes ts rest) : Writes (itemTokens xs ++ ts) (itemsText p gap xs ++ rest) := by
  induction xs with
  | nil => exact hrest
  | cons x xs ih =>
    rw [List.forall_mem_cons] at h
    have hafter : Ends (itemsText p gap xs ++ rest) := ends_flatMap (fun x => ⟨_, rfl⟩) xs hends
    have hx := h.1 _ _ hafter (ih h.2)
    have htext : itemsText p gap (x :: xs) ++ rest
        = ',' :: (gap ++ (p x ++ (itemsText p gap xs ++ rest))) := by
      simp [itemsText]
    rw [itemTokens, List.cons_append, List.append_assoc, htext]
    exact .token (t := .comma) trivial (.blanks hgap hx)

/-- The fields of an object after the first one write their tokens, by induction on the fields. -/
theorem writes_fieldsText (hgap : ∀ c ∈ gap, isBlank c) (hspace : ∀ c ∈ space, isBlank c)
    {fs : List (String × Json)} (h : ∀ f ∈ fs, f.2.WrittenBy (p f.2)) {ts : List Token}
    {rest : List Char} (hends : Ends rest) (hrest : Writes ts rest) :
    Writes (fieldTokens fs ++ ts) (fieldsText p gap space fs ++ rest) := by
  induction fs with
  | nil => exact hrest
  | cons f fs ih =>
    obtain ⟨k, v⟩ := f
    rw [List.forall_mem_cons] at h
    have hafter : Ends (fieldsText p gap space fs ++ rest) :=
      ends_flatMap (fun f => ⟨_, rfl⟩) fs hends
    have hv := h.1 _ _ hafter (ih h.2)
    have htext : fieldsText p gap space ((k, v) :: fs) ++ rest
        = ',' :: (gap ++ ((quote k).toList ++ ':' ::
            (space ++ (p v ++ (fieldsText p gap space fs ++ rest))))) := by
      simp [fieldsText]
    rw [fieldTokens, List.cons_append, List.cons_append, List.cons_append, List.append_assoc, htext]
    exact .token (t := .comma) trivial (.blanks hgap (.token (t := .string k) trivial
      (.token (t := .colon) trivial (.blanks hspace hv))))

/-- An array is written by its items between brackets. -/
theorem writtenBy_array {last : List Char} (hgap : ∀ c ∈ gap, isBlank c)
    (hlast : ∀ c ∈ last, isBlank c) {x : Json} {xs : List Json}
    (h : ∀ y ∈ x :: xs, y.WrittenBy (p y)) :
    (Json.array (x :: xs)).WrittenBy
      ('[' :: (gap ++ (p x ++ (itemsText p gap xs ++ (last ++ [']']))))) := by
  intro ts rest _ hrest
  rw [List.forall_mem_cons] at h
  have hclose : Writes (.arrayClose :: ts) (last ++ (']' :: rest)) :=
    .blanks hlast (.token (t := .arrayClose) trivial hrest)
  have hends : Ends (last ++ (']' :: rest)) := ends_blanks hlast (ends_cons.2 (by decide))
  have hitems := writes_itemsText hgap h.2 hends hclose
  have hx := h.1 _ _ (ends_flatMap (fun x => ⟨_, rfl⟩) xs hends) hitems
  have htext : '[' :: (gap ++ (p x ++ (itemsText p gap xs ++ (last ++ [']'])))) ++ rest
      = '[' :: (gap ++ (p x ++ (itemsText p gap xs ++ (last ++ ']' :: rest)))) := by
    simp
  rw [tokens, List.cons_append, List.append_assoc, List.append_assoc, htext]
  exact .token (t := .arrayOpen) trivial (.blanks hgap hx)

/-- An object is written by its fields between braces. -/
theorem writtenBy_object {last : List Char} (hgap : ∀ c ∈ gap, isBlank c)
    (hspace : ∀ c ∈ space, isBlank c) (hlast : ∀ c ∈ last, isBlank c) {k : String} {v : Json}
    {fs : List (String × Json)} (h : ∀ f ∈ (k, v) :: fs, f.2.WrittenBy (p f.2)) :
    (Json.object ((k, v) :: fs)).WrittenBy
      ('\x7b' :: (gap ++ ((quote k).toList ++ ':' :: (space ++ (p v ++
        (fieldsText p gap space fs ++ (last ++ ['\x7d']))))))) := by
  intro ts rest _ hrest
  rw [List.forall_mem_cons] at h
  have hclose : Writes (.objectClose :: ts) (last ++ ('\x7d' :: rest)) :=
    .blanks hlast (.token (t := .objectClose) trivial hrest)
  have hends : Ends (last ++ ('\x7d' :: rest)) := ends_blanks hlast (ends_cons.2 (by decide))
  have hfields := writes_fieldsText hgap hspace h.2 hends hclose
  have hv := h.1 _ _ (ends_flatMap (fun f => ⟨_, rfl⟩) fs hends) hfields
  have htext : '\x7b' :: (gap ++ ((quote k).toList ++ ':' :: (space ++ (p v ++
        (fieldsText p gap space fs ++ (last ++ ['\x7d'])))))) ++ rest
      = '\x7b' :: (gap ++ ((quote k).toList ++ ':' :: (space ++ (p v ++
        (fieldsText p gap space fs ++ (last ++ '\x7d' :: rest)))))) := by
    simp
  rw [tokens, List.cons_append, List.cons_append, List.cons_append, List.append_assoc,
    List.append_assoc, htext]
  exact .token (t := .objectOpen) trivial (.blanks hgap (.token (t := .string k) trivial
    (.token (t := .colon) trivial (.blanks hspace hv))))

end Parts

/-- A value without parts is written by its text. -/
theorem Readable.writtenBy_scalarText {d : Nat} {j : Json} (h : Readable d j)
    (harray : ∀ x xs, j ≠ .array (x :: xs)) (hobject : ∀ f fs, j ≠ .object (f :: fs)) :
    j.WrittenBy (scalarText j).toList := by
  cases h with
  | null => exact writtenBy_of_tokens (t := .null) rfl fun _ => id
  | bool d b =>
    have hwritten : (Json.bool b).WrittenBy (Token.bool b).spelling :=
      writtenBy_of_tokens rfl fun _ => id
    cases b <;> exact hwritten
  | nat d h => exact writtenBy_of_tokens (t := .number _) rfl fun _ hends => ⟨⟨_, h, rfl⟩, hends⟩
  | string d s => exact writtenBy_of_tokens (t := .string s) rfl fun _ _ => trivial
  | @array d items =>
    cases items with
    | nil =>
      intro ts rest _ hrest
      exact .token (t := .arrayOpen) trivial (.token (t := .arrayClose) trivial hrest)
    | cons x xs => exact absurd rfl (harray x xs)
  | @object d fields =>
    cases fields with
    | nil =>
      intro ts rest _ hrest
      exact .token (t := .objectOpen) trivial (.token (t := .objectClose) trivial hrest)
    | cons f fs => exact absurd rfl (hobject f fs)

/-! ## Over several lines -/

/-- `String.pushn` puts the copies of the character at the end. -/
theorem toList_pushn (s : String) (c : Char) (n : Nat) :
    (s.pushn c n).toList = s.toList ++ List.replicate n c := by
  rw [String.pushn_eq_repeat_push]
  induction n with
  | zero => simp [Nat.repeat]
  | succ n ih => simp [Nat.repeat, ih, List.replicate_succ']

/-- A line break with its indentation is made of blanks. -/
theorem isBlank_of_mem_lineBreak {level : Nat} : ∀ c ∈ (lineBreak level).toList, isBlank c := by
  intro c hc
  rw [lineBreak, String.toList_append, List.mem_append, toList_pushn] at hc
  rcases hc with hc | hc
  · obtain rfl : c = '\n' := by simpa using hc
    rfl
  · obtain ⟨-, rfl⟩ : 2 * level ≠ 0 ∧ c = ' ' := by simpa using hc
    rfl

/-- `prettyItems` writes each item after a comma and a line break. -/
theorem toList_prettyItems (level : Nat) (xs : List Json) :
    (prettyItems level xs).toList
      = itemsText (fun x => (prettyAt level x).toList) (lineBreak level).toList xs := by
  induction xs with
  | nil => rfl
  | cons x xs ih => simp [prettyItems, ih, itemsText]

/-- `prettyFields` writes each field after a comma and a line break, with a space after its
colon. -/
theorem toList_prettyFields (level : Nat) (fs : List (String × Json)) :
    (prettyFields level fs).toList
      = fieldsText (fun v => (prettyAt level v).toList) (lineBreak level).toList [' '] fs := by
  induction fs with
  | nil => rfl
  | cons f fs ih => simp [prettyFields, ih, fieldsText]

/-- **A value over several lines** writes its tokens. -/
theorem Readable.writtenBy_prettyAt {d : Nat} {j : Json} (h : Readable d j) (level : Nat) :
    j.WrittenBy (prettyAt level j).toList := by
  induction h generalizing level with
  | @array d items h ih =>
    cases items with
    | nil =>
      -- without items there is no line break, and the text is that of a value without parts
      exact (Readable.array (d := d) h).writtenBy_scalarText (by simp) (by simp)
    | cons x xs =>
      have htext : (prettyAt level (.array (x :: xs))).toList
          = '[' :: ((lineBreak (level + 1)).toList ++ ((prettyAt (level + 1) x).toList ++
            (itemsText (fun x => (prettyAt (level + 1) x).toList) (lineBreak (level + 1)).toList xs
              ++ ((lineBreak level).toList ++ [']'])))) := by
        simp [prettyAt, toList_prettyItems]
      rw [htext]
      exact writtenBy_array (p := fun x => (prettyAt (level + 1) x).toList)
        isBlank_of_mem_lineBreak isBlank_of_mem_lineBreak fun y hy => ih y hy (level + 1)
  | @object d fields h ih =>
    cases fields with
    | nil => exact (Readable.object (d := d) h).writtenBy_scalarText (by simp) (by simp)
    | cons f fs =>
      obtain ⟨k, v⟩ := f
      have htext : (prettyAt level (.object ((k, v) :: fs))).toList
          = '\x7b' :: ((lineBreak (level + 1)).toList ++ ((quote k).toList ++ ':' :: ([' '] ++
            ((prettyAt (level + 1) v).toList ++
              (fieldsText (fun v => (prettyAt (level + 1) v).toList) (lineBreak (level + 1)).toList
                [' '] fs ++ ((lineBreak level).toList ++ ['\x7d'])))))) := by
        simp [prettyAt, toList_prettyFields]
      rw [htext]
      exact writtenBy_object (p := fun v => (prettyAt (level + 1) v).toList)
        isBlank_of_mem_lineBreak (by simp [isBlank]) isBlank_of_mem_lineBreak
        fun g hg => ih g hg (level + 1)
  | null d => exact (Readable.null d).writtenBy_scalarText (by simp) (by simp)
  | bool d b => exact (Readable.bool d b).writtenBy_scalarText (by simp) (by simp)
  | nat d h =>
    exact (Readable.nat d h).writtenBy_scalarText (by simp [Json.nat]) (by simp [Json.nat])
  | string d s => exact (Readable.string d s).writtenBy_scalarText (by simp) (by simp)

/-! ## In one line -/

/-- `compactItems` writes each item after a comma. -/
theorem toList_compactItems (xs : List Json) :
    (compactItems xs).toList = itemsText (fun x => (compact x).toList) [] xs := by
  induction xs with
  | nil => rfl
  | cons x xs ih => simp [compactItems, ih, itemsText]

/-- `compactFields` writes each field after a comma. -/
theorem toList_compactFields (fs : List (String × Json)) :
    (compactFields fs).toList = fieldsText (fun v => (compact v).toList) [] [] fs := by
  induction fs with
  | nil => rfl
  | cons f fs ih => simp [compactFields, ih, fieldsText]

/-- **A value in one line** writes its tokens. -/
theorem Readable.writtenBy_compact {d : Nat} {j : Json} (h : Readable d j) :
    j.WrittenBy (compact j).toList := by
  induction h with
  | @array d items h ih =>
    cases items with
    | nil => exact (Readable.array (d := d) h).writtenBy_scalarText (by simp) (by simp)
    | cons x xs =>
      have htext : (compact (.array (x :: xs))).toList
          = '[' :: ([] ++ ((compact x).toList ++
            (itemsText (fun x => (compact x).toList) [] xs ++ ([] ++ [']'])))) := by
        simp [compact, toList_compactItems]
      rw [htext]
      exact writtenBy_array (p := fun x => (compact x).toList) (by simp) (by simp) ih
  | @object d fields h ih =>
    cases fields with
    | nil => exact (Readable.object (d := d) h).writtenBy_scalarText (by simp) (by simp)
    | cons f fs =>
      obtain ⟨k, v⟩ := f
      have htext : (compact (.object ((k, v) :: fs))).toList
          = '\x7b' :: ([] ++ ((quote k).toList ++ ':' :: ([] ++ ((compact v).toList ++
            (fieldsText (fun v => (compact v).toList) [] [] fs ++ ([] ++ ['\x7d'])))))) := by
        simp [compact, toList_compactFields]
      rw [htext]
      exact writtenBy_object (p := fun v => (compact v).toList) (by simp) (by simp) (by simp) ih
  | null d => exact (Readable.null d).writtenBy_scalarText (by simp) (by simp)
  | bool d b => exact (Readable.bool d b).writtenBy_scalarText (by simp) (by simp)
  | nat d h =>
    exact (Readable.nat d h).writtenBy_scalarText (by simp [Json.nat]) (by simp [Json.nat])
  | string d s => exact (Readable.string d s).writtenBy_scalarText (by simp) (by simp)

/-! ## Back from a text -/

/-- A text that writes a value, with blanks after it, is read as the value. -/
theorem Readable.parse?_append_of_writtenBy {j : Json} (h : Readable Reading.maxDepth j)
    {text blanks : String} (htext : j.WrittenBy text.toList)
    (hblanks : ∀ c ∈ blanks.toList, isBlank c) : parse? (text ++ blanks) = some j := by
  refine h.parse?_eq ?_
  have hends : Ends (blanks.toList ++ []) := ends_blanks hblanks ends_nil
  have hwrites := htext [] (blanks.toList ++ []) hends (.blanks hblanks .nil)
  rwa [List.append_nil, List.append_nil, ← String.toList_append] at hwrites

/-- **Whatever text writes a `Readable` value is read as that value.**. -/
theorem Readable.parse?_of_writtenBy {j : Json} (h : Readable Reading.maxDepth j) {text : String}
    (htext : j.WrittenBy text.toList) : parse? text = some j := by
  have hnone : ∀ c ∈ "".toList, isBlank c := by simp
  have hparse := h.parse?_append_of_writtenBy htext hnone
  rwa [String.append_empty] at hparse

/-- **What is printed over several lines is read back.** -/
theorem Readable.parse?_pretty {j : Json} (h : Readable Reading.maxDepth j) :
    parse? j.pretty = some j :=
  h.parse?_of_writtenBy (h.writtenBy_prettyAt 0)

/-- A value written with line breaks is read back, also with blanks after it. -/
theorem Readable.parse?_pretty_append {j : Json} (h : Readable Reading.maxDepth j)
    {blanks : String} (hblanks : ∀ c ∈ blanks.toList, isBlank c) :
    parse? (j.pretty ++ blanks) = some j :=
  h.parse?_append_of_writtenBy (h.writtenBy_prettyAt 0) hblanks

/-- **What is printed in one line is read back.** -/
theorem Readable.parse?_compact {j : Json} (h : Readable Reading.maxDepth j) :
    parse? j.compact = some j :=
  h.parse?_of_writtenBy h.writtenBy_compact

/-! ## Parts of a record -/

/-- An array is readable one level further out than its items. -/
theorem readable_map {α : Type} {d : Nat} {encode : α → Json} {xs : List α}
    (h : ∀ x ∈ xs, Readable d (encode x)) : Readable (d + 1) (.array (xs.map encode)) := by
  refine .array fun j hj => ?_
  obtain ⟨x, hx, rfl⟩ := List.mem_map.1 hj
  exact h x hx

/-- An optional text is readable at any depth. -/
theorem readable_optString (d : Nat) (s : Option String) : Readable d (optString s) := by
  cases s with
  | none => exact .null d
  | some s => exact .string d s

/-- Items that are decoded one by one are decoded together. -/
theorem mapM_of_forall₂ {α β : Type} {decode : β → Option α} {xs : List α} {ys : List β}
    (h : List.Forall₂ (fun x y => decode y = some x) xs ys) : ys.mapM decode = some xs := by
  induction h with
  | nil => rfl
  | cons hx _ ih =>
    rw [List.mapM_cons, hx, ih]
    rfl

/-- Decoding a list item by item undoes encoding it. -/
theorem mapM_map {α β : Type} {encode : α → β} {decode : β → Option α} {xs : List α}
    (h : ∀ x ∈ xs, decode (encode x) = some x) : (xs.map encode).mapM decode = some xs :=
  mapM_of_forall₂ (List.forall₂_map_right_iff.2 (List.forall₂_same.2 h))

/-- The texts of a list of strings are read back. -/
theorem mapM_strings (ss : List String) : (ss.map Json.string).mapM asString? = some ss :=
  mapM_map fun _ _ => rfl

/-- A number that fits in 64 bits is read back. -/
theorem asNat?_nat {n : Nat} (h : n < wordSize) : (Json.nat n).asNat? = some n := by
  simp [Json.nat, asNat?, h]

end CodeGraph.Json
