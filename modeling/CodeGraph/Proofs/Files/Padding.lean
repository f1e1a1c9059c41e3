import CodeGraph.Proofs.Files.Cleaning

/-! # Cores and their spellings

The text of an import can be written with white space around it, with semicolons after it and with a
query or fragment at its end, in any order. What is left without all of this is its core
(`Imports.Core`), and every text is a spelling of exactly one core (`Imports.exists_spelling`,
`Imports.Spelling.essence_text`), which may be empty.

Cleaning takes away semicolons once, before the query. So it leaves the core exactly if the
semicolons stand in one row and are not followed by a query (`Imports.Settled`,
`Imports.cleanEnd_eq_empty_iff`). Otherwise it leaves something after the core that ends with a
semicolon (`Imports.leftover_cleanEnd`). -/

namespace CodeGraph.Imports

/-! ## Spellings -/

/-- Whether a character is white space or a semicolon. -/
def isPadding (c : Char) : Bool := Text.isBlank c || c == ';'

/-- **A spelling of a core**: with white space before it, with white space and semicolons after it,
and with a query or fragment at the end. -/
structure Spelling (core : String) where
  before : String
  padding : String
  query : String
  blank_before : ∀ c ∈ before.toList, Text.isBlank c
  is_padding : ∀ c ∈ padding.toList, isPadding c
  begins_query : ∀ c ∈ query.toList.head?, c = '?' ∨ c = '#'

/-- The text that is spelled. -/
def Spelling.text {core : String} (sp : Spelling core) : String :=
  sp.before ++ (core ++ (sp.padding ++ sp.query))

/-- **Semicolons that cleaning takes away**: they stand in one row, and no query follows them. -/
structure Settled (padding query : String) : Prop where
  row : ∃ start semicolons stop : String, padding = start ++ (semicolons ++ stop) ∧
    (∀ c ∈ start.toList, Text.isBlank c) ∧ (∀ c ∈ semicolons.toList, c = ';') ∧
    ∀ c ∈ stop.toList, Text.isBlank c
  query : query ≠ "" → ';' ∉ padding.toList

/-- What cleaning can leave after a core: white space and semicolons, with a semicolon at the
end. -/
structure Leftover (left : String) : Prop where
  is_padding : ∀ c ∈ left.toList, isPadding c
  last : ∀ c ∈ left.toList.getLast?, c = ';'

/-- A text without all that can stand around its core. -/
def essence (text : String) : String :=
  Text.trimEndWhere isPadding (beforeQuery (Text.trimStart text))

/-- Padding is white space and semicolons. -/
theorem isPadding_iff {c : Char} : isPadding c ↔ Text.isBlank c ∨ c = ';' := by
  simp [isPadding]

/-- Padding begins no query and no fragment. -/
theorem not_mark_of_isPadding {c : Char} (h : isPadding c) : c ≠ '?' ∧ c ≠ '#' := by
  constructor
  · rintro rfl
    cases h
  · rintro rfl
    cases h

section Parts

variable {padding query : String} (hpadding : ∀ c ∈ padding.toList, isPadding c)
  (hquery : ∀ c ∈ query.toList.head?, c = '?' ∨ c = '#')

/-! ## What cleaning leaves of a suffix -/

/-- A text in which no query or fragment begins is kept whole. -/
theorem beforeQuery_eq_self {text : String} (h : ∀ c ∈ text.toList, c ≠ '?' ∧ c ≠ '#') :
    beforeQuery text = text := by
  have happend := beforeQuery_append h ""
  have hempty : beforeQuery "" = "" := rfl
  rwa [hempty, String.append_empty] at happend

/-- No query or fragment begins in what `beforeQuery` leaves. -/
theorem unmarked_of_mem_beforeQuery {text : String} {c : Char}
    (h : c ∈ (beforeQuery text).toList) : c ≠ '?' ∧ c ≠ '#' := by
  rw [beforeQuery, String.toList_ofList] at h
  simpa using List.all_eq_true.1 List.all_takeWhile c h

/-- Nothing stands before a query or fragment at the start of a text. -/
theorem beforeQuery_of_head? (h : ∀ c ∈ query.toList.head?, c = '?' ∨ c = '#') :
    beforeQuery query = "" := by
  rw [beforeQuery]
  cases hchars : query.toList with
  | nil => rfl
  | cons c cs =>
    have hc : c = '?' ∨ c = '#' := h c (by rw [hchars]; rfl)
    rcases hc with rfl | rfl <;> simp

include hpadding in
/-- **Without a query**, white space, semicolons and again white space are taken away. -/
theorem cleanEnd_padding :
    cleanEnd padding = Text.trimEnd (Text.trimEndWhere (· == ';') (Text.trimEnd padding)) := by
  -- what is left is a part of the padding, in which no query begins
  have hunmarked : ∀ c ∈ (Text.trimEnd (Text.trimEndWhere (· == ';')
      (Text.trimEnd padding))).toList, c ≠ '?' ∧ c ≠ '#' := by
    intro c hc
    have hsemicolons := Text.mem_of_mem_trimEndWhere hc
    have hblank := Text.mem_of_mem_trimEndWhere hsemicolons
    exact not_mark_of_isPadding (hpadding c (Text.mem_of_mem_trimEndWhere hblank))
  rw [cleanEnd, beforeQuery_eq_self hunmarked]
  exact Text.trimEndWhere_trimEndWhere _ _

include hpadding hquery in
/-- **Before a query**, only white space is taken away. -/
theorem cleanEnd_padding_query (hne : query ≠ "") :
    cleanEnd (padding ++ query) = Text.trimEnd padding := by
  obtain ⟨mark, rest, hchars⟩ := Text.exists_toList_eq_cons hne
  have hmark : mark = '?' ∨ mark = '#' := hquery mark (by rw [hchars]; rfl)
  have hsplit : padding ++ query = padding ++ String.ofList [mark] ++ String.ofList rest := by
    rw [← String.toList_inj]
    simp [hchars]
  -- nothing is taken away beyond the mark before the query itself goes
  have hkept : ∀ p : Char → Bool, p '?' = false → p '#' = false → ∀ text,
      Text.trimEndWhere p (padding ++ String.ofList [mark] ++ text)
        = padding ++ String.ofList [mark] ++ Text.trimEndWhere p text := by
    intro p hquestion hhash
    refine Text.trimEndWhere_append_of_getLast? fun c hc => ?_
    have hc : c = mark := by simpa using hc.symm
    rcases hmark with rfl | rfl
    · rw [hc, hquestion]
    · rw [hc, hhash]
  have hblank : ∀ text, Text.trimEnd (padding ++ String.ofList [mark] ++ text)
      = padding ++ String.ofList [mark] ++ Text.trimEnd text := hkept Text.isBlank rfl rfl
  have hgone : ∀ text, beforeQuery (String.ofList [mark] ++ text) = "" := by
    intro text
    refine beforeQuery_of_head? fun c hc => ?_
    have hc : c = mark := by simpa using hc.symm
    rwa [hc]
  have hunmarked : ∀ c ∈ padding.toList, c ≠ '?' ∧ c ≠ '#' :=
    fun c hc => not_mark_of_isPadding (hpadding c hc)
  rw [cleanEnd, hsplit, hblank, hkept (· == ';') rfl rfl, hblank, String.append_assoc,
    beforeQuery_append hunmarked, hgone, String.append_empty]

include hpadding hquery in
/-- What `cleanEnd` leaves of padding and a query is padding. -/
theorem isPadding_of_mem_cleanEnd {c : Char} (h : c ∈ (cleanEnd (padding ++ query)).toList) :
    isPadding c := by
  by_cases hne : query = ""
  · rw [hne, String.append_empty, cleanEnd_padding hpadding] at h
    have hsemicolons := Text.mem_of_mem_trimEndWhere h
    have hblank := Text.mem_of_mem_trimEndWhere hsemicolons
    exact hpadding c (Text.mem_of_mem_trimEndWhere hblank)
  · rw [cleanEnd_padding_query hpadding hquery hne] at h
    exact hpadding c (Text.mem_of_mem_trimEndWhere h)

include hpadding hquery in
/-- **What is left after the core** is white space and semicolons, and ends with a semicolon. -/
theorem leftover_cleanEnd : Leftover (cleanEnd (padding ++ query)) := by
  refine ⟨fun c => isPadding_of_mem_cleanEnd hpadding hquery, fun c hc => ?_⟩
  have hblank : Text.isBlank c = false := Text.getLast?_trimEndWhere _ _ c hc
  have hpad := isPadding_of_mem_cleanEnd hpadding hquery (List.mem_of_getLast? hc)
  rcases isPadding_iff.1 hpad with hb | hsemicolon
  · rw [hblank] at hb
    cases hb
  · exact hsemicolon

/-- Semicolons in one row are taken away when nothing follows them. -/
theorem cleanEnd_row {start semicolons stop : String} (hstart : ∀ c ∈ start.toList, Text.isBlank c)
    (hsemicolons : ∀ c ∈ semicolons.toList, c = ';') (hstop : ∀ c ∈ stop.toList, Text.isBlank c) :
    Text.trimEnd (Text.trimEndWhere (· == ';') (Text.trimEnd (start ++ (semicolons ++ stop))))
      = "" := by
  have hend : Text.trimEnd (start ++ (semicolons ++ stop))
      = Text.trimEnd (start ++ semicolons) := by
    rw [← String.append_assoc, Text.trimEnd, Text.trimEndWhere_append_eq,
      if_pos (Text.trimEndWhere_eq_empty_iff.2 hstop)]
    rfl
  -- only white space of the start is left
  have hleft : ∀ c ∈ (Text.trimEndWhere (· == ';') (Text.trimEnd (start ++ semicolons))).toList,
      Text.isBlank c := by
    intro c hc
    by_cases hnone : semicolons = ""
    · rw [hnone, String.append_empty] at hc
      exact hstart c (Text.mem_of_mem_trimEndWhere (Text.mem_of_mem_trimEndWhere hc))
    · have hkept : Text.trimEnd (start ++ semicolons) = start ++ semicolons := by
        refine Text.trimEndWhere_eq_self fun d hd => ?_
        rw [String.toList_append, List.getLast?_append_of_ne_nil _
          (mt String.toList_eq_nil_iff.1 hnone)] at hd
        rw [hsemicolons d (List.mem_of_getLast? hd)]
        rfl
      have hdropped : Text.trimEndWhere (· == ';') semicolons = "" :=
        Text.trimEndWhere_eq_empty_iff.2 fun d hd => beq_iff_eq.2 (hsemicolons d hd)
      rw [hkept, Text.trimEndWhere_append_eq, if_pos hdropped] at hc
      exact hstart c (Text.mem_of_mem_trimEndWhere hc)
  rw [hend]
  exact Text.trimEndWhere_eq_empty_iff.2 hleft

include hpadding hquery in
/-- **Nothing is left after the core** exactly if the semicolons are settled. -/
theorem cleanEnd_eq_empty_iff : cleanEnd (padding ++ query) = "" ↔ Settled padding query := by
  by_cases hne : query = ""
  · rw [hne, String.append_empty, cleanEnd_padding hpadding]
    constructor
    · intro hempty
      obtain ⟨stop, hstop, hblank⟩ := Text.exists_append_trimEndWhere Text.isBlank padding
      obtain ⟨semicolons, hrow, hall⟩ :=
        Text.exists_append_trimEndWhere (· == ';') (Text.trimEnd padding)
      refine ⟨⟨_, semicolons, stop, ?_, Text.trimEndWhere_eq_empty_iff.1 hempty,
        fun c hc => beq_iff_eq.1 (hall c hc), hblank⟩, fun h => absurd rfl h⟩
      rw [← String.append_assoc, ← hrow]
      exact hstop
    · rintro ⟨⟨start, semicolons, stop, rfl, hstart, hsemicolons, hstop⟩, -⟩
      exact cleanEnd_row hstart hsemicolons hstop
  · rw [cleanEnd_padding_query hpadding hquery hne, Text.trimEnd, Text.trimEndWhere_eq_empty_iff]
    constructor
    · intro hblank
      refine ⟨⟨padding, "", "", by simp, hblank, by simp, by simp⟩, fun _ hmem => ?_⟩
      cases hblank ';' hmem
    · rintro ⟨-, hnone⟩ c hc
      rcases isPadding_iff.1 (hpadding c hc) with hblank | rfl
      · exact hblank
      · exact absurd hc (hnone hne)

/-- White space at the start of the padding does not count. -/
theorem settled_trimStart : Settled (Text.trimStart padding) query ↔ Settled padding query := by
  obtain ⟨head, hhead, hblank⟩ := Text.exists_append_trimStartWhere Text.isBlank padding
  -- white space at the start has no part in where the semicolons are
  have hmem : ';' ∈ padding.toList ↔ ';' ∈ (Text.trimStart padding).toList := by
    have hnot : ';' ∉ head.toList := by
      intro hmem
      cases hblank ';' hmem
    have hchars : padding.toList = head.toList ++ (Text.trimStart padding).toList := by
      rw [← String.toList_append]
      exact congrArg String.toList hhead
    rw [hchars, List.mem_append, or_iff_right hnot]
  constructor
  · rintro ⟨⟨start, semicolons, stop, hrow, hstart, hsemicolons, hstop⟩, hnone⟩
    refine ⟨⟨head ++ start, semicolons, stop, ?_, ?_, hsemicolons, hstop⟩,
      fun hne => mt hmem.1 (hnone hne)⟩
    · rw [String.append_assoc, ← hrow]
      exact hhead
    · intro c hc
      rw [String.toList_append, List.mem_append] at hc
      exact hc.elim (hblank c) (hstart c)
  · rintro ⟨⟨start, semicolons, stop, hrow, hstart, hsemicolons, hstop⟩, hnone⟩
    refine ⟨?_, fun hne => mt hmem.2 (hnone hne)⟩
    have htrim : Text.trimStart padding = Text.trimStart (semicolons ++ stop) := by
      rw [hrow]
      exact Text.trimStartWhere_append_of_all hstart _
    by_cases hempty : semicolons = ""
    · -- all of the padding is white space
      have hgone : Text.trimStart padding = "" := by
        have hall := Text.trimStartWhere_append_of_all hstop ""
        rw [String.append_empty] at hall
        rw [htrim, hempty, String.empty_append]
        exact hall
      exact ⟨"", "", "", by simp [hgone], by simp, by simp, by simp⟩
    · have hkept : Text.trimStart (semicolons ++ stop) = semicolons ++ stop := by
        obtain ⟨c, cs, hcs⟩ := Text.exists_toList_eq_cons hempty
        refine Text.trimStartWhere_eq_self fun d hd => ?_
        rw [String.toList_append, hcs, List.cons_append, List.head?_cons] at hd
        rw [← Option.some.inj hd, hsemicolons c (by simp [hcs])]
        rfl
      exact ⟨"", semicolons, stop, by rw [htrim, hkept, String.empty_append], by simp, hsemicolons,
        hstop⟩

end Parts

/-! ## Every text has one core -/

section Texts

variable {core : String} (hcore : Core core) (sp : Spelling core)
include hcore

/-- What is left of a spelling when white space at its start is taken away: the core with all that
follows it, or, if the core is empty, with less white space. -/
theorem Spelling.exists_trimStart_text :
    ∃ padding, Text.trimStart sp.text = core ++ (padding ++ sp.query) ∧
      (∀ c ∈ padding.toList, isPadding c) ∧
      (Settled padding sp.query ↔ Settled sp.padding sp.query) := by
  have hbefore : Text.trimStart sp.text = Text.trimStart (core ++ (sp.padding ++ sp.query)) :=
    Text.trimStartWhere_append_of_all sp.blank_before _
  by_cases hempty : core = ""
  · subst hempty
    obtain ⟨head, hhead, hblank⟩ := Text.exists_append_trimStartWhere Text.isBlank sp.padding
    have hpadding : ∀ c ∈ (Text.trimStart sp.padding).toList, isPadding c := by
      intro c hc
      refine sp.is_padding c ?_
      rw [hhead, String.toList_append]
      exact List.mem_append_right _ hc
    refine ⟨Text.trimStart sp.padding, ?_, hpadding, settled_trimStart⟩
    have hfirst : Text.trimStart (sp.padding ++ sp.query)
        = Text.trimStart (Text.trimStart sp.padding ++ sp.query) := by
      have hshape : sp.padding ++ sp.query = head ++ (Text.trimStart sp.padding ++ sp.query) := by
        rw [← String.append_assoc]
        exact congrArg (· ++ sp.query) hhead
      rw [hshape]
      exact Text.trimStartWhere_append_of_all hblank _
    rw [hbefore, String.empty_append, String.empty_append, hfirst]
    -- now a semicolon comes first, or the query, or nothing
    refine Text.trimStartWhere_eq_self fun c hc => ?_
    rw [String.toList_append, List.head?_append] at hc
    cases hpad : (Text.trimStart sp.padding).toList.head? with
    | some d =>
      rw [hpad, Option.some_or, Option.mem_def] at hc
      cases hc
      exact Text.head?_trimStartWhere _ _ _ hpad
    | none =>
      rw [hpad, Option.none_or] at hc
      rcases sp.begins_query c hc with rfl | rfl <;> rfl
  · refine ⟨sp.padding, hbefore.trans ?_, sp.is_padding, Iff.rfl⟩
    obtain ⟨c, cs, hcs⟩ := Text.exists_toList_eq_cons hempty
    refine Text.trimStartWhere_eq_self fun d hd => hcore.first d ?_
    rw [String.toList_append, hcs, List.cons_append, List.head?_cons] at hd
    rwa [hcs]

/-- **What cleaning leaves of a spelling**: the core, and nothing after it exactly if the semicolons
are settled. -/
theorem Spelling.cleanSpecifier_text :
    ∃ left, cleanSpecifier sp.text = (if core ++ left = "" then none else some (core ++ left)) ∧
      (left = "" ↔ Settled sp.padding sp.query) ∧ Leftover left := by
  obtain ⟨padding, htext, hpadding, hsettled⟩ := sp.exists_trimStart_text hcore
  refine ⟨cleanEnd (padding ++ sp.query), ?_, ?_, leftover_cleanEnd hpadding sp.begins_query⟩
  · rw [cleanSpecifier_eq, htext, hcore.cleanEnd_append]
  · rw [cleanEnd_eq_empty_iff hpadding sp.begins_query, hsettled]

/-- **The core can be read off a spelling.** -/
theorem Spelling.essence_text : essence sp.text = core := by
  obtain ⟨padding, htext, hpadding, -⟩ := sp.exists_trimStart_text hcore
  have hunmarked : ∀ c ∈ padding.toList, c ≠ '?' ∧ c ≠ '#' :=
    fun c hc => not_mark_of_isPadding (hpadding c hc)
  rw [essence, htext, beforeQuery_append hcore.unmarked, beforeQuery_append hunmarked,
    beforeQuery_of_head? sp.begins_query, String.append_empty]
  refine Text.trimEndWhere_append_of_all (fun c hc => ?_) hpadding
  obtain ⟨hblank, hsemicolon⟩ := hcore.last c hc
  simp [isPadding, hblank, hsemicolon]

end Texts

/-- **Every text is a spelling of a core.** -/
theorem exists_spelling (text : String) :
    Core (essence text) ∧ ∃ sp : Spelling (essence text), sp.text = text := by
  obtain ⟨before, hbefore, hblank⟩ := Text.exists_append_trimStartWhere Text.isBlank text
  obtain ⟨query, hquery, hmark⟩ := exists_append_beforeQuery (Text.trimStart text)
  obtain ⟨padding, hpadding, hpad⟩ :=
    Text.exists_append_trimEndWhere isPadding (beforeQuery (Text.trimStart text))
  rw [← essence] at hpadding
  refine ⟨⟨?_, ?_, ?_⟩, ⟨before, padding, query, hblank, hpad, hmark⟩, ?_⟩
  · have hfirst : ∀ c ∈ (Text.trimStart text).toList.head?, Text.isBlank c = false :=
      Text.head?_trimStartWhere _ _
    rw [hquery] at hfirst
    exact Text.head?_trimEndWhere (Text.head?_of_append hfirst)
  · intro c hc
    have hlast := Text.getLast?_trimEndWhere isPadding (beforeQuery (Text.trimStart text)) c hc
    simpa [isPadding] using hlast
  · intro c hc
    exact unmarked_of_mem_beforeQuery (Text.mem_of_mem_trimEndWhere hc)
  · have hrest : essence text ++ (padding ++ query) = Text.trimStart text := by
      rw [← String.append_assoc, ← hpadding, ← hquery]
    show before ++ (essence text ++ (padding ++ query)) = text
    rw [hrest]
    exact hbefore.symm

/-! ## What is left -/

/-- **What cleaning leaves is not empty and has no white space at its ends and no query**, and
cleaning it again takes nothing away exactly if it does not end with a semicolon. -/
theorem cleaned_again_iff {text cleaned : String} (h : cleanSpecifier text = some cleaned) :
    cleaned ≠ "" ∧ (∀ c ∈ cleaned.toList.head?, Text.isBlank c = false) ∧
      (∀ c ∈ cleaned.toList.getLast?, Text.isBlank c = false) ∧
      (∀ c ∈ cleaned.toList, c ≠ '?' ∧ c ≠ '#') ∧
      (cleanSpecifier cleaned = some cleaned ↔ cleaned.toList.getLast? ≠ some ';') := by
  rw [cleanSpecifier_eq, Option.ite_none_left_eq_some, Option.some.injEq] at h
  obtain ⟨hne, heq⟩ := h
  rw [heq] at hne
  have hfirst : ∀ c ∈ cleaned.toList.head?, Text.isBlank c = false := by
    rw [← heq]
    exact head?_cleanEnd (Text.head?_trimStartWhere _ _)
  have hlast : ∀ c ∈ cleaned.toList.getLast?, Text.isBlank c = false := by
    rw [← heq]
    exact Text.getLast?_trimEndWhere _ _
  have hunmarked : ∀ c ∈ cleaned.toList, c ≠ '?' ∧ c ≠ '#' := by
    rw [← heq]
    intro c hc
    exact unmarked_of_mem_beforeQuery (Text.mem_of_mem_trimEndWhere hc)
  refine ⟨hne, hfirst, hlast, hunmarked, ?_⟩
  constructor
  · intro hagain hsemicolon
    rw [cleanSpecifier_eq, Text.trimStart, Text.trimStartWhere_eq_self hfirst,
      Option.ite_none_left_eq_some, Option.some.injEq] at hagain
    -- nothing can have been taken away, and so no semicolon
    have hblank : Text.trimEnd cleaned = cleaned := Text.trimEndWhere_eq_self hlast
    have hrest : ∀ c ∈ (Text.trimEnd (Text.trimEndWhere (· == ';') cleaned)).toList,
        c ≠ '?' ∧ c ≠ '#' := by
      intro c hc
      exact hunmarked c (Text.mem_of_mem_trimEndWhere (Text.mem_of_mem_trimEndWhere hc))
    have hkept : cleanEnd cleaned
        = Text.trimEnd (Text.trimEnd (Text.trimEndWhere (· == ';') cleaned)) := by
      rw [cleanEnd, hblank, beforeQuery_eq_self hrest]
    have hle : (Text.trimEnd (Text.trimEnd (Text.trimEndWhere (· == ';') cleaned))).length
        ≤ (Text.trimEndWhere (· == ';') cleaned).length :=
      Nat.le_trans (Text.length_trimEndWhere_le _ _) (Text.length_trimEndWhere_le _ _)
    rw [← hkept, hagain.2] at hle
    have hself := Text.getLast?_trimEndWhere (· == ';') cleaned ';'
    rw [Text.trimEndWhere_eq_self_of_length_le hle] at hself
    cases hself hsemicolon
  · intro hsemicolon
    have hcore : Core cleaned := by
      refine ⟨hfirst, fun c hc => ⟨hlast c hc, ?_⟩, hunmarked⟩
      rintro rfl
      exact hsemicolon hc
    have hclean := hcore.cleanSpecifier_append hne ""
    rwa [cleanEnd_empty, String.append_empty] at hclean

end CodeGraph.Imports
