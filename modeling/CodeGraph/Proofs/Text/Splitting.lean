import CodeGraph.Text.Blank
import Mathlib.Data.List.Basic

/-! # Texts that are split

A text can be split at the first occurrence of a mark (`splitOnce?`), at the last occurrence of a
character (`splitLast?`) and at all of them (`splitAll`). What is put together with the mark in
between is split there again, and whatever is split can be put together again. The parts between all
occurrences of a character do not have it in them (`Text.not_mem_of_mem_splitAll`), and they are the
only such parts that give the text (`Text.splitAll_join`, `Text.join_splitAll`). -/

namespace CodeGraph.Text

/-! ## Characters and marks -/

/-- A text that is not empty has a first character. -/
theorem exists_toList_eq_cons {s : String} (h : s ≠ "") : ∃ c cs, s.toList = c :: cs :=
  List.exists_cons_of_ne_nil fun hnil => h (String.toList_eq_nil_iff.1 hnil)

/-- The last character of two texts is that of the second one, if it has any. -/
theorem getLast?_append_of_eq_some {a b : String} {c : Char} (h : b.toList.getLast? = some c) :
    (a ++ b).toList.getLast? = some c := by
  rw [String.toList_append, List.getLast?_append, h, Option.some_or]

/-- What is put after joined texts is put after the last of them. -/
theorem intercalate_concat_append (mark : String) (before : List String) (last more : String) :
    mark.intercalate (before ++ [last]) ++ more = mark.intercalate (before ++ [last ++ more]) := by
  by_cases hbefore : before = []
  · subst hbefore
    rw [List.nil_append, List.nil_append, String.intercalate_singleton,
      String.intercalate_singleton]
  · rw [String.intercalate_append_of_ne_nil hbefore (List.cons_ne_nil _ _),
      String.intercalate_append_of_ne_nil hbefore (List.cons_ne_nil _ _),
      String.intercalate_singleton, String.intercalate_singleton, String.append_assoc]

/-- A text is split at a mark whose first character does not stand before it. -/
theorem splitAtMark?_append {c : Char} {before : List Char} (h : c ∉ before)
    (mark after : List Char) :
    splitAtMark? (c :: mark) (before ++ (c :: mark ++ after)) = some (before, after) := by
  induction before with
  | nil => simp [splitAtMark?]
  | cons d ds ih =>
    rw [List.mem_cons, not_or] at h
    have hrest := ih h.2
    rw [List.cons_append] at hrest
    simp [splitAtMark?, h.1, hrest]

/-- What `splitAtMark?` gives is what the characters are put together of. -/
theorem append_of_splitAtMark? {mark cs before after : List Char}
    (h : splitAtMark? mark cs = some (before, after)) : cs = before ++ (mark ++ after) := by
  induction cs generalizing before with
  | nil =>
    rw [splitAtMark?] at h
    split at h
    · next hmark =>
      cases h
      rw [List.isEmpty_iff.1 hmark]
      rfl
    · cases h
  | cons d ds ih =>
    rw [splitAtMark?] at h
    split at h
    · next hprefix =>
      cases h
      exact (List.prefix_iff_eq_append.1 (List.isPrefixOf_iff_prefix.1 hprefix)).symm
    · obtain ⟨⟨x, y⟩, hrest, heq⟩ := Option.map_eq_some_iff.1 h
      cases heq
      rw [ih hrest]
      rfl

/-- `splitAtMark?` finds the first occurrence of a character. -/
theorem of_splitAtMark? {c : Char} {cs before after : List Char}
    (h : splitAtMark? [c] cs = some (before, after)) : cs = before ++ c :: after ∧ c ∉ before := by
  induction cs generalizing before with
  | nil => cases h
  | cons d ds ih =>
    simp only [splitAtMark?, List.isPrefixOf, Bool.and_true, beq_iff_eq] at h
    split at h
    · next hd =>
      subst hd
      cases h
      exact ⟨rfl, List.not_mem_nil⟩
    · next hd =>
      obtain ⟨⟨x, y⟩, hrest, heq⟩ := Option.map_eq_some_iff.1 h
      cases heq
      obtain ⟨rfl, hx⟩ := ih hrest
      exact ⟨rfl, by simp [hd, hx]⟩

/-- Where `splitAtMark?` finds nothing, the character does not occur. -/
theorem not_mem_of_splitAtMark? {c : Char} {cs : List Char} (h : splitAtMark? [c] cs = none) :
    c ∉ cs := by
  induction cs with
  | nil => exact List.not_mem_nil
  | cons d ds ih =>
    simp only [splitAtMark?, List.isPrefixOf, Bool.and_true, beq_iff_eq] at h
    split at h
    · cases h
    · next hd =>
      rw [Option.map_eq_none_iff] at h
      simp [hd, ih h]

/-- `splitOnce?` gives back two texts with a mark between them whose first character is not in the
first one. -/
theorem splitOnce?_append {c : Char} {mark : List Char} {start : String} (h : c ∉ start.toList)
    (rest : String) :
    splitOnce? (String.ofList (c :: mark)) (start ++ String.ofList (c :: mark) ++ rest)
      = some (start, rest) := by
  have hchars : (start ++ String.ofList (c :: mark) ++ rest).toList
      = start.toList ++ (c :: mark ++ rest.toList) := by simp
  rw [splitOnce?, String.toList_ofList, hchars, splitAtMark?_append h]
  simp

/-- What `splitOnce?` gives is what the text is put together of. -/
theorem append_of_splitOnce? {mark s start rest : String}
    (h : splitOnce? mark s = some (start, rest)) : s = start ++ mark ++ rest := by
  obtain ⟨⟨before, after⟩, hsplit, heq⟩ := Option.map_eq_some_iff.1 h
  cases heq
  rw [← String.toList_inj, append_of_splitAtMark? hsplit]
  simp

/-! ## All parts -/

/-- `splitAll` gives at least one part. -/
theorem splitAll_ne_nil (c : Char) (s : String) : splitAll c s ≠ [] := by
  simp [splitAll, List.splitOn_ne_nil]

/-- `splitAll` gives a last part, and others before it perhaps. -/
theorem exists_splitAll_eq_concat (c : Char) (s : String) :
    ∃ before last, splitAll c s = before ++ [last] :=
  (List.eq_nil_or_concat' _).resolve_left (splitAll_ne_nil c s)

/-- What is joined by a character is split at that character. -/
theorem splitAll_of_toList {c : Char} {s a b : String}
    (h : s.toList = a.toList ++ c :: b.toList) :
    splitAll c s = splitAll c a ++ splitAll c b := by
  rw [splitAll, h, List.splitOn_append_cons_self, List.map_append]
  rfl

/-- `splitAll` cuts two texts that are joined by the character into the parts of both. -/
theorem splitAll_append {c : Char} {mark : String} (hmark : mark.toList = [c]) (a b : String) :
    splitAll c (a ++ mark ++ b) = splitAll c a ++ splitAll c b := by
  refine splitAll_of_toList ?_
  rw [String.toList_append, String.toList_append, hmark, List.append_assoc]
  rfl

/-- The parts of joined texts are the texts, if the character that joins them is in none of them. -/
theorem splitAll_join {c : Char} {mark : String} (hmark : mark.toList = [c])
    {parts : List String} (h : ∀ part ∈ parts, c ∉ part.toList) (hne : parts ≠ []) :
    splitAll c (mark.intercalate parts) = parts := by
  have hparts : ∀ cs ∈ parts.map String.toList, c ∉ cs := by
    intro cs hcs
    obtain ⟨part, hpart, rfl⟩ := List.mem_map.1 hcs
    exact h part hpart
  have hchars : (mark.intercalate parts).toList = [c].intercalate (parts.map String.toList) := by
    rw [String.toList_intercalate, hmark]
  rw [splitAll, hchars, List.splitOn_intercalate c hparts (by simpa using hne), List.map_map]
  simp

/-- Joining the parts of a text gives the text. -/
theorem join_splitAll {c : Char} {mark : String} (hmark : mark.toList = [c]) (s : String) :
    mark.intercalate (splitAll c s) = s := by
  have hid : String.toList ∘ String.ofList = id := funext fun _ => String.toList_ofList
  rw [← String.toList_inj, String.toList_intercalate, splitAll, List.map_map, hid, List.map_id,
    hmark]
  exact List.intercalate_splitOn c

/-- Whoever knows the parts that `splitAll` gives knows the text. -/
theorem splitAll_injective (c : Char) : Function.Injective (splitAll c) := by
  intro a b h
  have hmark : (String.ofList [c]).toList = [c] := String.toList_ofList
  rw [← join_splitAll hmark a, h, join_splitAll hmark b]

/-- A text in which the character does not occur is the only part of itself. -/
theorem splitAll_of_not_mem {c : Char} {s : String} (h : c ∉ s.toList) :
    splitAll c s = [s] := by
  have hmark : (String.ofList [c]).toList = [c] := String.toList_ofList
  have hsplit := splitAll_join hmark (List.forall_mem_singleton.2 h) (List.cons_ne_nil s [])
  rwa [String.intercalate_singleton] at hsplit

/-- The parts between the occurrences of a character do not have it in them. -/
theorem not_mem_of_mem_splitAll {mark : Char} {s part : String}
    (h : part ∈ splitAll mark s) : mark ∉ part.toList := by
  obtain ⟨cs, hcs, rfl⟩ := List.mem_map.1 h
  rw [String.toList_ofList]
  clear h
  generalize s.toList = text at hcs
  -- a character either ends the first part or belongs to it
  induction text generalizing cs with
  | nil =>
    rw [List.splitOn_nil, List.mem_singleton] at hcs
    rw [hcs]
    exact List.not_mem_nil
  | cons c rest ih =>
    rw [List.splitOn_cons_eq_if_modifyHead] at hcs
    split at hcs
    · rcases List.mem_cons.1 hcs with rfl | hcs
      · exact List.not_mem_nil
      · exact ih cs hcs
    · next hc =>
      cases hrest : List.splitOn mark rest with
      | nil => exact absurd hrest (List.splitOn_ne_nil _ _)
      | cons first others =>
        rw [hrest] at hcs ih
        rcases List.mem_cons.1 hcs with rfl | hcs
        · rw [List.mem_cons, not_or]
          exact ⟨fun heq => hc (beq_iff_eq.2 heq.symm), ih first (List.mem_cons_self ..)⟩
        · exact ih cs (List.mem_cons_of_mem _ hcs)

/-- The characters of a part are characters of the text. -/
theorem mem_of_mem_splitAll {c d : Char} {s part : String} (hpart : part ∈ splitAll c s)
    (hd : d ∈ part.toList) : d ∈ s.toList := by
  have hmark : (String.ofList [c]).toList = [c] := String.toList_ofList
  rw [← join_splitAll hmark s]
  generalize splitAll c s = parts at hpart
  induction parts with
  | nil => cases hpart
  | cons first rest ih =>
    by_cases hrest : rest = []
    · subst hrest
      rw [List.mem_singleton] at hpart
      rwa [String.intercalate_singleton, ← hpart]
    · rw [String.intercalate_cons_of_ne_nil hrest, String.toList_append, String.toList_append,
        List.mem_append, List.mem_append]
      rcases List.mem_cons.1 hpart with rfl | hpart
      · exact .inl (.inl hd)
      · exact .inr (ih hpart)

/-- What is split after one character has become a slash is split at that character before. -/
theorem splitAll_map_slash (mark : Char) (s : String) :
    splitAll '/' (s.map fun c => if c == mark then '/' else c)
      = (splitAll mark s).flatMap (splitAll '/') := by
  have hchars : ∀ cs : List Char, (cs.map fun c => if c == mark then '/' else c).splitOn '/'
      = (cs.splitOn mark).flatMap (List.splitOn '/') := by
    intro cs
    induction cs with
    | nil => rfl
    | cons c cs ih =>
      rw [List.map_cons, List.splitOn_cons_eq_if_modifyHead, List.splitOn_cons_eq_if_modifyHead, ih]
      cases hparts : cs.splitOn mark with
      | nil => exact absurd hparts (List.splitOn_ne_nil _ _)
      | cons part parts =>
        by_cases hmark : c = mark
        · simp [hmark]
        · -- the character belongs to the first part, and is a slash in it or not
          cases hfirst : part.splitOn '/' with
          | nil => exact absurd hfirst (List.splitOn_ne_nil _ _)
          | cons p ps =>
            by_cases hslash : c = '/'
            · subst hslash
              simp [hmark, hfirst, List.splitOn_cons_eq_if_modifyHead]
            · simp [hmark, hslash, hfirst, List.splitOn_cons_eq_if_modifyHead]
  rw [splitAll, String.toList_map, hchars, splitAll, List.flatMap_map, List.map_flatMap]
  simp [splitAll]

/-! ## The last part -/

/-- What is split at the last occurrence of a character has no more of it in the second part. -/
theorem of_splitLast? {c : Char} {s head last : String} (h : splitLast? c s = some (head, last)) :
    s.toList = head.toList ++ c :: last.toList ∧ splitAll c s = splitAll c head ++ [last] := by
  obtain ⟨⟨after, before⟩, hsplit, heq⟩ := Option.map_eq_some_iff.1 h
  obtain ⟨hreverse, hafter⟩ := of_splitAtMark? hsplit
  cases heq
  have hchars : s.toList = before.reverse ++ c :: after.reverse := by
    rw [← List.reverse_reverse s.toList, hreverse]
    simp
  have hlast : splitAll c (String.ofList after.reverse) = [String.ofList after.reverse] :=
    splitAll_of_not_mem (by simpa using hafter)
  refine ⟨by simpa using hchars, ?_⟩
  rw [← hlast, splitAll, hchars, List.splitOn_append_cons_self, List.map_append]
  simp [splitAll]

/-- Where `splitLast?` finds nothing, the text is the only part of itself. -/
theorem splitAll_of_splitLast?_eq_none {c : Char} {s : String} (h : splitLast? c s = none) :
    splitAll c s = [s] := by
  rw [splitLast?, Option.map_eq_none_iff] at h
  exact splitAll_of_not_mem fun hmem =>
    not_mem_of_splitAtMark? h (List.mem_reverse.2 hmem)

/-- `splitLast?` gives back two texts with a character between them that is not in the second
one. -/
theorem splitLast?_append {c : Char} {last : String} (h : c ∉ last.toList) (head : String) :
    splitLast? c (head ++ String.ofList [c] ++ last) = some (head, last) := by
  have hchars : (head ++ String.ofList [c] ++ last).toList.reverse
      = last.toList.reverse ++ ([c] ++ head.toList.reverse) := by simp
  rw [splitLast?, hchars, splitAtMark?_append (mt List.mem_reverse.1 h)]
  simp

/-- Parts with something put after the last of them; if there are none, it is the only one. -/
def extendLast (parts : List String) (more : String) : List String :=
  parts.dropLast ++ [parts.getLastD "" ++ more]

/-- `extendLast` puts something after the last part only. -/
theorem extendLast_concat (before : List String) (last more : String) :
    extendLast (before ++ [last]) more = before ++ [last ++ more] := by
  simp [extendLast]

/-- What is put after a text is put after its last part, if it is not split itself. -/
theorem splitAll_extend {c : Char} {more : String} (h : c ∉ more.toList) (s : String) :
    splitAll c (s ++ more) = extendLast (splitAll c s) more := by
  have hmark : (String.ofList [c]).toList = [c] := String.toList_ofList
  obtain ⟨before, last, hparts⟩ := exists_splitAll_eq_concat c s
  have hmem : ∀ part ∈ before ++ [last], c ∉ part.toList := by
    intro part hpart
    rw [← hparts] at hpart
    exact not_mem_of_mem_splitAll hpart
  have hnot : ∀ part ∈ before ++ [last ++ more], c ∉ part.toList := by
    intro part hpart
    rcases List.mem_append.1 hpart with hpart | hpart
    · exact hmem part (List.mem_append_left _ hpart)
    · rw [List.mem_singleton.1 hpart, String.toList_append, List.mem_append, not_or]
      exact ⟨hmem last (by simp), h⟩
  have hjoin : s ++ more = (String.ofList [c]).intercalate (before ++ [last ++ more]) := by
    rw [← intercalate_concat_append, ← hparts, join_splitAll hmark]
  rw [hparts, extendLast_concat, hjoin, splitAll_join hmark hnot (by simp)]

end CodeGraph.Text
