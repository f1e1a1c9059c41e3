import CodeGraph.Text.Blank
import Mathlib.Data.List.TakeWhile

/-! # Texts without what stands at their ends

What is dropped at an end of a text goes up to the first character, seen from that end, that fails
the test. So a text that is put together of two is dropped into only as far as its last part
(`Text.trimEndWhere_append_eq`), or not beyond a beginning whose own last character stays
(`Text.trimEndWhere_append_of_getLast?`).

At both ends (`Text.trimBothWhere`) nothing is dropped exactly if the first and the last character
fail the test, and everything is dropped exactly if no character does
(`Text.trimBothWhere_eq_self_iff`, `Text.trimBothWhere_eq_empty_iff`). -/

namespace CodeGraph.Text

variable {p : Char → Bool} {s : String}

/-! ## The end -/

/-- What is dropped at the end of two texts: some of the second one, or all of it and then some of
the first. -/
theorem trimEndWhere_append_eq (p : Char → Bool) (start rest : String) :
    trimEndWhere p (start ++ rest)
      = if trimEndWhere p rest = "" then trimEndWhere p start
        else start ++ trimEndWhere p rest := by
  have hiff : trimEndWhere p rest = "" ↔ (rest.toList.reverse.dropWhile p).isEmpty = true := by
    rw [← String.toList_inj, trimEndWhere, dropEnd, String.toList_ofList, List.isEmpty_iff]
    exact List.reverse_eq_nil_iff
  by_cases hempty : (rest.toList.reverse.dropWhile p).isEmpty = true
  · rw [if_pos (hiff.2 hempty), trimEndWhere, trimEndWhere, dropEnd, dropEnd, String.toList_append,
      List.reverse_append, List.dropWhile_append, if_pos hempty]
  · rw [if_neg (mt hiff.1 hempty), trimEndWhere, trimEndWhere, dropEnd, dropEnd,
      String.toList_append, List.reverse_append, List.dropWhile_append, if_neg hempty]
    simp

/-- What is dropped at the end satisfies the test. -/
theorem exists_append_trimEndWhere (p : Char → Bool) (s : String) :
    ∃ tail : String, s = trimEndWhere p s ++ tail ∧ ∀ c ∈ tail.toList, p c = true := by
  refine ⟨String.ofList (s.toList.reverse.takeWhile p).reverse, ?_, fun c hc => ?_⟩
  · rw [← String.toList_inj, trimEndWhere, dropEnd]
    simp [← List.reverse_append]
  · rw [String.toList_ofList, List.mem_reverse] at hc
    exact List.all_eq_true.1 List.all_takeWhile c hc

/-- Nothing is left of a text exactly if every character is dropped. -/
theorem trimEndWhere_eq_empty_iff : trimEndWhere p s = "" ↔ ∀ c ∈ s.toList, p c = true := by
  constructor
  · intro hempty
    obtain ⟨tail, hs, htail⟩ := exists_append_trimEndWhere p s
    rw [hempty, String.empty_append] at hs
    rwa [hs]
  · intro h
    have hnil : s.toList.reverse.dropWhile p = [] :=
      List.dropWhile_eq_nil_iff.2 fun c hc => h c (List.mem_reverse.1 hc)
    rw [trimEndWhere, dropEnd, hnil]
    rfl

/-- A text whose last character is not dropped stays as it is. -/
theorem trimEndWhere_eq_self (h : ∀ c ∈ s.toList.getLast?, p c = false) :
    trimEndWhere p s = s := by
  have hkept : s.toList.reverse.dropWhile p = s.toList.reverse := by
    rw [← List.head?_reverse] at h
    cases hchars : s.toList.reverse with
    | nil => rfl
    | cons c cs =>
      rw [hchars] at h
      exact List.dropWhile_cons_of_neg (by simp [h c rfl])
  rw [trimEndWhere, dropEnd, hkept, List.reverse_reverse, String.ofList_toList]

/-- **A beginning whose last character is not dropped is kept**, whatever follows. -/
theorem trimEndWhere_append_of_getLast? {start : String}
    (h : ∀ c ∈ start.toList.getLast?, p c = false) (rest : String) :
    trimEndWhere p (start ++ rest) = start ++ trimEndWhere p rest := by
  rw [trimEndWhere_append_eq]
  split
  · next hempty => rw [hempty, String.append_empty, trimEndWhere_eq_self h]
  · rfl

/-- A beginning of which no character satisfies the test is kept by `trimEndWhere`. -/
theorem trimEndWhere_append {start : String} (h : ∀ c ∈ start.toList, p c = false)
    (rest : String) : trimEndWhere p (start ++ rest) = start ++ trimEndWhere p rest :=
  trimEndWhere_append_of_getLast? (fun c hc => h c (List.mem_of_getLast? hc)) rest

/-- What is dropped at the end goes up to the first character that is not. -/
theorem trimEndWhere_append_of_all (h : ∀ c ∈ s.toList.getLast?, p c = false) {tail : String}
    (htail : ∀ c ∈ tail.toList, p c = true) : trimEndWhere p (s ++ tail) = s := by
  rw [trimEndWhere_append_of_getLast? h, trimEndWhere_eq_empty_iff.2 htail, String.append_empty]

/-- The last character that is left is not one that is dropped. -/
theorem getLast?_trimEndWhere (p : Char → Bool) (s : String) :
    ∀ c ∈ (trimEndWhere p s).toList.getLast?, p c = false := by
  intro c hc
  rw [trimEndWhere, dropEnd, String.toList_ofList, List.getLast?_reverse, Option.mem_def] at hc
  have hstop := List.head?_dropWhile_not p s.toList.reverse
  rw [hc] at hstop
  simpa using hstop

/-- What is left after trimming the end was there before. -/
theorem mem_of_mem_trimEndWhere {c : Char} (h : c ∈ (trimEndWhere p s).toList) : c ∈ s.toList := by
  obtain ⟨tail, hs, -⟩ := exists_append_trimEndWhere p s
  rw [hs, String.toList_append]
  exact List.mem_append_left _ h

/-- Trimming the end makes no text longer. -/
theorem length_trimEndWhere_le (p : Char → Bool) (s : String) :
    (trimEndWhere p s).length ≤ s.length := by
  obtain ⟨tail, hs, -⟩ := exists_append_trimEndWhere p s
  have hlength := congrArg String.length hs
  rw [String.length_append] at hlength
  omega

/-- Where nothing gets shorter, nothing is dropped. -/
theorem trimEndWhere_eq_self_of_length_le (h : s.length ≤ (trimEndWhere p s).length) :
    trimEndWhere p s = s := by
  obtain ⟨tail, hs, -⟩ := exists_append_trimEndWhere p s
  have hlength := congrArg String.length hs
  rw [String.length_append] at hlength
  have htail : tail = "" := String.length_eq_zero_iff.1 (by omega)
  rw [htail, String.append_empty] at hs
  exact hs.symm

/-- Trimming the end twice is trimming it once. -/
theorem trimEndWhere_trimEndWhere (p : Char → Bool) (s : String) :
    trimEndWhere p (trimEndWhere p s) = trimEndWhere p s :=
  trimEndWhere_eq_self (getLast?_trimEndWhere p s)

/-! ## The start -/

/-- A beginning begins as the whole text does. -/
theorem head?_of_append {start rest : String}
    (h : ∀ c ∈ (start ++ rest).toList.head?, p c = false) :
    ∀ c ∈ start.toList.head?, p c = false := by
  intro c hc
  refine h c ?_
  rw [String.toList_append, List.head?_append, Option.mem_def.1 hc]
  rfl

/-- What `trimEndWhere` leaves begins as the whole text does. -/
theorem head?_trimEndWhere {q : Char → Bool} (h : ∀ c ∈ s.toList.head?, p c = false) :
    ∀ c ∈ (trimEndWhere q s).toList.head?, p c = false := by
  obtain ⟨tail, hs, -⟩ := exists_append_trimEndWhere q s
  rw [hs] at h
  exact head?_of_append h

/-- What is dropped at the start satisfies the test. -/
theorem exists_append_trimStartWhere (p : Char → Bool) (s : String) :
    ∃ head : String, s = head ++ trimStartWhere p s ∧ ∀ c ∈ head.toList, p c = true := by
  refine ⟨String.ofList (s.toList.takeWhile p), ?_, fun c hc => ?_⟩
  · rw [← String.toList_inj, trimStartWhere, dropStart]
    simp
  · rw [String.toList_ofList] at hc
    exact List.all_eq_true.1 List.all_takeWhile c hc

/-- A text whose first character is not dropped stays as it is. -/
theorem trimStartWhere_eq_self (h : ∀ c ∈ s.toList.head?, p c = false) :
    trimStartWhere p s = s := by
  have hkept : s.toList.dropWhile p = s.toList := by
    cases hchars : s.toList with
    | nil => rfl
    | cons c cs =>
      rw [hchars] at h
      exact List.dropWhile_cons_of_neg (by simp [h c rfl])
  rw [trimStartWhere, dropStart, hkept, String.ofList_toList]

/-- A beginning is dropped of which every character is. -/
theorem trimStartWhere_append_of_all {start : String} (h : ∀ c ∈ start.toList, p c = true)
    (rest : String) : trimStartWhere p (start ++ rest) = trimStartWhere p rest := by
  rw [trimStartWhere, dropStart, String.toList_append, List.dropWhile_append_of_pos h]
  rfl

/-- The first character that is left is not one that is dropped. -/
theorem head?_trimStartWhere (p : Char → Bool) (s : String) :
    ∀ c ∈ (trimStartWhere p s).toList.head?, p c = false := by
  intro c hc
  rw [trimStartWhere, dropStart, String.toList_ofList, Option.mem_def] at hc
  have hstop := List.head?_dropWhile_not p s.toList
  rw [hc] at hstop
  simpa using hstop

/-! ## Both ends -/

/-- A text without the characters at both ends that satisfy a test. -/
def trimBothWhere (p : Char → Bool) (s : String) : String := trimEndWhere p (trimStartWhere p s)

/-- `trim` takes blanks away at both ends. -/
theorem trim_eq (s : String) : trim s = trimBothWhere isBlank s := by
  rw [trim, trimBothWhere, trimStartWhere, trimEndWhere, String.toList_ofList]

/-- A text without white space at its start can only be trimmed at its end. -/
theorem trim_of_head? (h : ∀ c ∈ s.toList.head?, isBlank c = false) : trim s = trimEnd s := by
  rw [trim_eq, trimBothWhere, trimStartWhere_eq_self h]
  rfl

/-- **What satisfies the test around a text does not count.** -/
theorem trimBothWhere_surrounded {before after : String} (hbefore : ∀ c ∈ before.toList, p c = true)
    (hafter : ∀ c ∈ after.toList, p c = true) (s : String) :
    trimBothWhere p (before ++ s ++ after) = trimBothWhere p s := by
  obtain ⟨head, hs, hhead⟩ := exists_append_trimStartWhere p s
  have hfirst := head?_trimStartWhere p s
  have hstart : trimStartWhere p (before ++ s ++ after)
      = trimStartWhere p (trimStartWhere p s ++ after) := by
    have hshape : before ++ s ++ after = before ++ (head ++ (trimStartWhere p s ++ after)) := by
      have hjoin : head ++ (trimStartWhere p s ++ after) = s ++ after := by
        rw [← String.append_assoc, ← hs]
      rw [hjoin, String.append_assoc]
    rw [hshape, trimStartWhere_append_of_all hbefore, trimStartWhere_append_of_all hhead]
  rw [trimBothWhere, hstart, trimBothWhere]
  by_cases hempty : trimStartWhere p s = ""
  · -- nothing is left of the text, and then nothing of what follows it
    have hgone : trimStartWhere p after = "" := by
      have hall := trimStartWhere_append_of_all hafter ""
      rwa [String.append_empty] at hall
    rw [hempty, String.empty_append, hgone]
  · have hkept : trimStartWhere p (trimStartWhere p s ++ after) = trimStartWhere p s ++ after := by
      obtain ⟨d, ds, hchars⟩ := List.exists_cons_of_ne_nil (mt String.toList_eq_nil_iff.1 hempty)
      refine trimStartWhere_eq_self fun c hc => hfirst c ?_
      rw [String.toList_append, hchars, List.cons_append, List.head?_cons] at hc
      rwa [hchars]
    rw [hkept, trimEndWhere_append_eq, if_pos (trimEndWhere_eq_empty_iff.2 hafter)]

/-- Nothing is left of a text exactly if every character is dropped. -/
theorem trimBothWhere_eq_empty_iff : trimBothWhere p s = "" ↔ ∀ c ∈ s.toList, p c = true := by
  obtain ⟨head, hs, hhead⟩ := exists_append_trimStartWhere p s
  rw [trimBothWhere, trimEndWhere_eq_empty_iff]
  constructor
  · intro hrest c hc
    rw [hs, String.toList_append, List.mem_append] at hc
    exact hc.elim (hhead c) (hrest c)
  · intro hall c hc
    refine hall c ?_
    rw [hs, String.toList_append]
    exact List.mem_append_right _ hc

/-- **Nothing is dropped** exactly if the first and the last character stay. -/
theorem trimBothWhere_eq_self_iff :
    trimBothWhere p s = s ↔
      (∀ c ∈ s.toList.head?, p c = false) ∧ ∀ c ∈ s.toList.getLast?, p c = false := by
  constructor
  · intro hself
    have hlast := getLast?_trimEndWhere p (trimStartWhere p s)
    rw [← trimBothWhere, hself] at hlast
    refine ⟨fun c hc => ?_, hlast⟩
    -- a first character that is dropped would make the text shorter
    by_contra hdropped
    obtain ⟨head, hs, -⟩ := exists_append_trimStartWhere p s
    have hle := length_trimEndWhere_le p (trimStartWhere p s)
    rw [← trimBothWhere, hself] at hle
    have hlength := congrArg String.length hs
    rw [String.length_append] at hlength
    have hhead : head = "" := String.length_eq_zero_iff.1 (by omega)
    rw [hhead, String.empty_append] at hs
    exact hdropped (head?_trimStartWhere p s c (hs ▸ hc))
  · rintro ⟨hfirst, hlast⟩
    rw [trimBothWhere, trimStartWhere_eq_self hfirst, trimEndWhere_eq_self hlast]

/-- White space around a text does not count. -/
theorem trim_surrounded {before after : String} {c : Char} {cs : List Char}
    (hs : s.toList = c :: cs) (hc : isBlank c = false)
    (hbefore : ∀ c ∈ before.toList, isBlank c = true)
    (hafter : ∀ c ∈ after.toList, isBlank c = true) :
    trim (before ++ s ++ after) = trimEnd s := by
  have hfirst : ∀ d ∈ s.toList.head?, isBlank d = false := by
    intro d hd
    rw [hs, List.head?_cons] at hd
    rwa [← Option.some.inj hd]
  rw [trim_eq, trimBothWhere_surrounded hbefore hafter, trimBothWhere,
    trimStartWhere_eq_self hfirst]
  rfl

end CodeGraph.Text
