import CodeGraph.Proofs.Files.Padding
import CodeGraph.Proofs.Files.Spelling

/-! # Semicolons that are left

Cleaning can leave white space and semicolons after a core (`Imports.Leftover`). They then belong to
the last name of the path that is meant. In Python no step leads up but by the dots at the start, so
that some importing file stands deep enough for the path to exist whatever the core is
(`Imports.Dotted.follow_steps`), and what is left stands at its end
(`Imports.Dotted.exists_place_append`). A file of that path is found for no other leftover
(`Imports.exists_find?_ne`).

So two spellings of one core are resolved alike exactly if they are cleaned alike
(`Imports.Spelling.readAlike_iff`). -/

namespace CodeGraph

namespace Imports

open FileTree (names)

/-! ## Leftovers in names -/

/-- What is no padding does not stand in what cleaning leaves. -/
theorem Leftover.not_mem {left : String} (h : Leftover left) {c : Char} (hc : isPadding c = false) :
    c ∉ left.toList := by
  intro hmem
  rw [h.is_padding c hmem] at hc
  cases hc

/-- What cleaning leaves after a core ends with a semicolon, unless it is nothing. -/
theorem Leftover.getLast? {left : String} (h : Leftover left) (hne : left ≠ "") :
    left.toList.getLast? = some ';' := by
  have hlist : left.toList ≠ [] := mt String.toList_eq_nil_iff.1 hne
  have hlast := List.getLast?_eq_some_getLast hlist
  rw [hlast, h.last _ hlast]

/-- What is left belongs to the last name of a path, or is a name itself. -/
theorem exists_names_append (s : String) :
    ∃ before last, (names s = before ∨ names s = before ++ [last]) ∧
      ∀ left, Leftover left → left ≠ "" → names (s ++ left) = before ++ [last ++ left] := by
  obtain ⟨before, last, hparts⟩ := Text.exists_splitAll_eq_concat '/' s
  refine ⟨before.filter fun n => n != "" && n != ".", last, ?_, fun left hleft hne => ?_⟩
  · rw [names, hparts, List.filter_append]
    by_cases hlast : last = "" ∨ last = "."
    · left
      rw [List.filter_cons_of_neg (by simpa [imp_iff_not_or] using hlast), List.filter_nil,
        List.append_nil]
    · right
      rw [List.filter_cons_of_pos (by simpa using hlast), List.filter_nil]
  · -- the last name ends with a semicolon, and so it is no idle step
    have hend := Text.getLast?_append_of_eq_some (a := last) (hleft.getLast? hne)
    have hother : ∀ s : String, s.toList.getLast? ≠ some ';' → last ++ left ≠ s := by
      rintro s hs rfl
      exact hs hend
    have hempty : last ++ left ≠ "" := hother "" (by decide)
    have hdot : last ++ left ≠ "." := hother "." (by decide)
    rw [names, Text.splitAll_extend (hleft.not_mem rfl), hparts, Text.extendLast_concat,
      List.filter_append, List.filter_cons_of_pos (by simp [hempty, hdot]), List.filter_nil]

/-- The names of a path without dots are proper. -/
theorem properName_of_mem_names {s name : String} (hdot : '.' ∉ s.toList) (h : name ∈ names s) :
    ProperName name := by
  obtain ⟨hmem, hidle⟩ := List.mem_filter.1 h
  rw [Bool.and_eq_true, bne_iff_ne, bne_iff_ne] at hidle
  refine ⟨hidle.1, hidle.2, ?_, Text.not_mem_of_mem_splitAll hmem⟩
  rintro rfl
  exact hdot (Text.mem_of_mem_splitAll hmem (by decide))

/-- Following proper names leads to the path that they make. -/
theorem follow_names {ns : List String} (h : ∀ name ∈ ns, ProperName name) :
    follow ns = some ("/".intercalate ns) := by
  have htake := @takeSteps_names [] ns [] h
  rw [List.append_nil, List.append_nil] at htake
  rw [follow, htake, takeSteps, List.reverse_reverse, Option.map_some]

/-- Proper names joined by slashes are told apart by the path that they make. -/
theorem intercalate_inj {ms ns : List String} (hms : ∀ name ∈ ms, ProperName name)
    (hns : ∀ name ∈ ns, ProperName name) (h : "/".intercalate ms = "/".intercalate ns) :
    ms = ns := by
  have hsteps := takeSteps_splitAll_intercalate hms
  rw [h, takeSteps_splitAll_intercalate hns] at hsteps
  exact (Option.some.inj hsteps).symm

/-- A path that ends with a semicolon is tried for itself only. -/
theorem eq_of_mem_candidates {p path : String} (h : p ∈ candidates path)
    (hlast : p.toList.getLast? = some ';') : p = path := by
  have hext : ∀ ext ∈ sourceExtensions, ∃ c, ext.toList.getLast? = some c ∧ c ≠ ';' := by
    simp [sourceExtensions]
  -- what ends otherwise does so as well after other text
  have hends : ∀ (before after : String) (c : Char), after.toList.getLast? = some c → c ≠ ';' →
      p ≠ before ++ after := by
    rintro before after c hc hne rfl
    rw [Text.getLast?_append_of_eq_some hc] at hlast
    exact hne (Option.some.inj hlast)
  have hbelow : ∀ (name : String) (c : Char), name.toList.getLast? = some c → c ≠ ';' →
      p ≠ below path name := by
    intro name c hc hne
    rw [below]
    split
    · exact String.empty_append (s := name) ▸ hends "" name c hc hne
    · exact hends _ name c hc hne
  simp only [candidates, List.mem_append, List.mem_map, List.mem_singleton] at h
  rcases h with (h | ⟨ext, hmem, heq⟩) | heq
  · split at h
    · cases h
    · rcases List.mem_cons.1 h with heq | h
      · exact heq
      · obtain ⟨ext, hmem, heq⟩ := List.mem_map.1 h
        obtain ⟨c, hc, hne⟩ := hext ext hmem
        exact absurd heq.symm (hends _ ext c hc hne)
  · obtain ⟨c, hc, hne⟩ := hext ext (List.mem_filter.1 hmem).1
    exact absurd heq.symm (hbelow _ c (Text.getLast?_append_of_eq_some hc) hne)
  · exact absurd heq (hbelow "__init__.py" 'y' (by decide) (by decide))

/-! ## Where dotted names lead -/

namespace Dotted

/-- A dotted name with something put after its last part. -/
def extend (m : Dotted) (more : String) : Dotted :=
  { m with parts := Text.extendLast m.parts more }

/-- The names that a dotted name leads to when it is imported in a directory: dots at its start
leave the first names of the directory. -/
def place (dirs : List String) (m : Dotted) : List String :=
  (if m.dots = 0 then [] else dirs.take (dirs.length - m.dots + 1)) ++ m.parts.flatMap names

/-- A text is dots and a name that does not begin with one. -/
theorem exists_dots_append (s : String) : ∃ dots name : List Char,
    s = String.ofList (dots ++ name) ∧ (∀ c ∈ dots, c = '.') ∧ name.head? ≠ some '.' := by
  refine ⟨s.toList.takeWhile (· == '.'), s.toList.dropWhile (· == '.'), ?_, ?_, ?_⟩
  · rw [List.takeWhile_append_dropWhile, String.ofList_toList]
  · exact fun c hc => beq_iff_eq.1 (List.all_eq_true.1 List.all_takeWhile c hc)
  · intro hhead
    have hnot := List.head?_dropWhile_not (· == '.') s.toList
    rw [hhead] at hnot
    cases hnot

/-- What is left after a specifier goes to the last part of its dotted name. -/
theorem ofText_extend {left : String} (hleft : Leftover left) (hne : left ≠ "") (core : String) :
    ofText (core ++ left) = (ofText core).extend left := by
  have hdot : '.' ∉ left.toList := hleft.not_mem rfl
  have hlist : left.toList ≠ [] := mt String.toList_eq_nil_iff.1 hne
  obtain ⟨dots, name, hcore, hdots, hname⟩ := exists_dots_append core
  have hjoin : core ++ left = String.ofList (dots ++ (name ++ left.toList)) := by
    rw [hcore, ← String.toList_inj]
    simp
  have hhead : (name ++ left.toList).head? ≠ some '.' := by
    cases name with
    | nil => exact fun h => hdot (List.mem_of_head? h)
    | cons c cs => exact hname
  rw [hjoin, hcore, ofText_append hdots hhead, ofText_append hdots hname, extend,
    if_neg (by simp [hlist])]
  by_cases hempty : name = []
  · rw [if_pos hempty, hempty, List.nil_append, String.ofList_toList, Text.splitAll_of_not_mem hdot]
    simp [Text.extendLast]
  · have hparts : String.ofList (name ++ left.toList) = String.ofList name ++ left := by simp
    rw [if_neg hempty, hparts, Text.splitAll_extend hdot]

/-- Whether the parts of a dotted name have no dots in them. -/
def Undotted (m : Dotted) : Prop := ∀ part ∈ m.parts, '.' ∉ part.toList

/-- There are no dots in the parts of the dotted name that is read from a text. -/
theorem undotted_ofText (s : String) : (ofText s).Undotted := by
  intro part hpart
  rw [ofText] at hpart
  dsimp only at hpart
  split at hpart
  · cases hpart
  · exact Text.not_mem_of_mem_splitAll hpart

/-- The module around a dotted name has the same dots at its start, and one part less. -/
theorem of_outer? {m outer : Dotted} (h : m.outer? = some outer) :
    outer = { m with parts := m.parts.dropLast } := by
  rw [outer?] at h
  split at h
  · cases h
  · exact (Option.some.inj h).symm

/-- There are no dots in the parts of the module around. -/
theorem Undotted.outer {m outer : Dotted} (hm : m.Undotted) (h : m.outer? = some outer) :
    outer.Undotted := by
  rw [of_outer? h]
  exact fun part hpart => hm part (List.dropLast_subset _ hpart)

/-- Whether a dotted name that is imported in a directory leads to names, or the module around it
does. -/
def LeadsTo (dirs : List String) (m : Dotted) (ns : List String) : Prop :=
  ns = m.place dirs ∨ ∃ outer, m.outer? = some outer ∧ ns = outer.place dirs

/-- **What is left goes to the last name**, whatever it is, and the module around stands before
it. -/
theorem exists_place_append (dirs : List String) (core : String) :
    ∃ before last, ∀ left, Leftover left →
      (ofText (core ++ left)).dots = (ofText core).dots ∧
      (left ≠ "" → (ofText (core ++ left)).place dirs = before ++ [last ++ left]) ∧
      ∀ ns, LeadsTo dirs (ofText (core ++ left)) ns →
        ns <+: before ∨ ns = before ++ [last ++ left] := by
  generalize hm : ofText core = m
  obtain ⟨before, last, hnames, hextend⟩ := exists_names_append (m.parts.getLastD "")
  have hparts : m.parts.flatMap names
      = m.parts.dropLast.flatMap names ++ names (m.parts.getLastD "") := by
    rcases List.eq_nil_or_concat' m.parts with hnil | ⟨first, part, hconcat⟩
    · simp [hnil]
    · simp [hconcat]
  -- what is left stands after the last part, so the module around does not depend on it
  let around : Dotted := { m with parts := m.parts.dropLast }
  refine ⟨around.place dirs ++ before, last, fun left hleft => ?_⟩
  by_cases hempty : left = ""
  · -- nothing is left: the last part may have no names at all
    rw [hempty, String.append_empty, hm]
    refine ⟨rfl, fun hne => absurd rfl hne, ?_⟩
    have hplace : m.place dirs = around.place dirs ++ names (m.parts.getLastD "") := by
      rw [place, place, hparts, ← List.append_assoc]
    rintro ns (rfl | ⟨outer, houter, rfl⟩)
    · rw [hplace, String.append_empty, List.append_assoc]
      rcases hnames with hnames | hnames
      · rw [hnames]
        exact .inl (List.prefix_refl _)
      · rw [hnames]
        exact .inr rfl
    · rw [of_outer? houter]
      exact .inl (List.prefix_append _ _)
  · rw [ofText_extend hleft hempty, hm]
    have hplace : (m.extend left).place dirs = around.place dirs ++ before ++ [last ++ left] := by
      have hmore : (m.extend left).parts.flatMap names
          = m.parts.dropLast.flatMap names ++ (before ++ [last ++ left]) := by
        rw [extend, Text.extendLast, List.flatMap_append, List.flatMap_singleton,
          hextend left hleft hempty]
      rw [place, place, hmore, List.append_assoc, List.append_assoc]
      rfl
    refine ⟨rfl, fun _ => hplace, ?_⟩
    rintro ns (rfl | ⟨outer, houter, rfl⟩)
    · exact .inr hplace
    · have hdrop : (m.extend left).parts.dropLast = m.parts.dropLast := by
        simp [extend, Text.extendLast]
      rw [of_outer? houter, hdrop]
      exact .inl (List.prefix_append _ _)

section Places

variable {dirs : List String} {importer : String} {m : Dotted} (hdirs : ProperNames dirs)
  (hm : m.Undotted)
include hdirs hm

/-- The names that an `Undotted` name leads to are proper. -/
theorem properName_of_mem_place {name : String} (h : name ∈ m.place dirs) : ProperName name := by
  rcases List.mem_append.1 h with h | h
  · split at h
    · cases h
    · exact hdirs.proper name (List.mem_of_mem_take h)
  · obtain ⟨part, hpart, hname⟩ := List.mem_flatMap.1 h
    exact properName_of_mem_names (hm part hpart) hname

/-- The names that an `Undotted` name or the module around it leads to are proper. -/
theorem LeadsTo.properName {ns : List String} (h : LeadsTo dirs m ns) :
    ∀ name ∈ ns, ProperName name := by
  rcases h with rfl | ⟨outer, houter, rfl⟩
  · exact fun name => properName_of_mem_place hdirs hm
  · exact fun name => properName_of_mem_place hdirs (hm.outer houter)

variable (himporter : names (parentDir importer) = dirs) (hle : m.dots ≤ dirs.length)
include himporter hle

/-- **Where a dotted name leads**, if it does not have more dots than there are directories. -/
theorem follow_steps : follow (m.steps importer) = some ("/".intercalate (m.place dirs)) := by
  have hproper := fun name => @properName_of_mem_place dirs m hdirs hm name
  rw [← follow_names hproper]
  by_cases hzero : m.dots = 0
  · rw [steps, place, if_pos hzero, if_pos hzero]
  · have htake : ∀ name ∈ dirs.take (dirs.length - m.dots + 1), ProperName name :=
      fun name hname => hdirs.proper name (List.mem_of_mem_take hname)
    have hrelative := follow_steps_relative hdirs himporter (Nat.pos_of_ne_zero hzero) hle m.parts
      importer
    rw [steps_absolute htake] at hrelative
    rw [place, if_neg hzero]
    exact hrelative

/-- A file is found by its own path, before any other. -/
theorem find?_place (hne : m.place dirs ≠ []) :
    m.find? (· == "/".intercalate (m.place dirs)) importer
      = some ("/".intercalate (m.place dirs)) := by
  have hproper := fun name => @properName_of_mem_place dirs m hdirs hm name
  have hempty : ¬ ("/".intercalate (m.place dirs)).isEmpty :=
    fun h => hne ((isEmpty_intercalate hproper).1 h)
  have hprobe : probe (· == "/".intercalate (m.place dirs)) ("/".intercalate (m.place dirs))
      = some ("/".intercalate (m.place dirs)) := by
    rw [probe, candidates, if_neg hempty]
    simp
  rw [find?, follow_steps hdirs hm himporter hle, Option.bind_some, hprobe, Option.some_or]

/-- **A file whose path ends with a semicolon is found by its own path only.** -/
theorem exists_leadsTo_of_find? {isFile : String → Bool} {path : String}
    (h : m.find? isFile importer = some path) (hlast : path.toList.getLast? = some ';') :
    ∃ ns, LeadsTo dirs m ns ∧ path = "/".intercalate ns := by
  have hprobe : ∀ p, probe isFile p = some path → path = p :=
    fun p hp => eq_of_mem_candidates (List.mem_of_find?_eq_some hp) hlast
  rw [find?, follow_steps hdirs hm himporter hle, Option.bind_some] at h
  rcases Option.or_eq_some_iff.1 h with hfound | ⟨-, haround⟩
  · exact ⟨_, .inl rfl, hprobe _ hfound⟩
  · obtain ⟨outer, houter, hfound⟩ := Option.bind_eq_some_iff.1 haround
    have hdots : outer.dots ≤ dirs.length := by
      rwa [of_outer? houter]
    rw [follow_steps hdirs (hm.outer houter) himporter hdots, Option.bind_some] at hfound
    exact ⟨_, .inr ⟨outer, houter, rfl⟩, hprobe _ hfound⟩

end Places

end Dotted

/-! ## Telling leftovers apart -/

/-- **Some file is found for one leftover and for no other.** -/
theorem exists_find?_ne {left other : String} (hleft : Leftover left) (hne : left ≠ "")
    (hother : Leftover other) (h : other ≠ left) (core : String) :
    ∃ isFile importer path, (Dotted.ofText (core ++ left)).find? isFile importer = some path ∧
      (Dotted.ofText (core ++ other)).find? isFile importer ≠ some path := by
  -- the importing file stands deeper than the core has dots at its start
  let dirs := List.replicate ((Dotted.ofText core).dots + 1) "d"
  have hdirs : ProperNames dirs := by
    refine ⟨by simp [dirs], fun name hname => ?_⟩
    rw [List.eq_of_mem_replicate hname]
    decide
  have himporter : names (parentDir ("/".intercalate dirs ++ "/" ++ "m.py")) = dirs :=
    names_parentDir hdirs (by decide)
  have hlength : (Dotted.ofText core).dots ≤ dirs.length := by simp [dirs]
  obtain ⟨before, last, hplaces⟩ := Dotted.exists_place_append dirs core
  obtain ⟨hdots, hplace, -⟩ := hplaces left hleft
  obtain ⟨hotherdots, -, hotherplaces⟩ := hplaces other hother
  have hfound := Dotted.find?_place hdirs (Dotted.undotted_ofText (core ++ left)) himporter
    (hdots ▸ hlength) (by simp [hplace hne])
  rw [hplace hne] at hfound
  refine ⟨_, _, _, hfound, fun hsame => ?_⟩
  have hend : ("/".intercalate (before ++ [last ++ left])).toList.getLast? = some ';' := by
    rw [← Text.intercalate_concat_append]
    exact Text.getLast?_append_of_eq_some (hleft.getLast? hne)
  have hproper : ∀ name ∈ before ++ [last ++ left], ProperName name := by
    rw [← hplace hne]
    exact fun name => Dotted.properName_of_mem_place hdirs (Dotted.undotted_ofText _)
  obtain ⟨ns, hleads, hpath⟩ := Dotted.exists_leadsTo_of_find? hdirs
    (Dotted.undotted_ofText (core ++ other)) himporter (hotherdots ▸ hlength) hsame hend
  have hns : before ++ [last ++ left] = ns :=
    intercalate_inj hproper (hleads.properName hdirs (Dotted.undotted_ofText _)) hpath
  -- the other name leads to another last name, and the module around is too short
  rcases hotherplaces ns hleads with hshort | hlast
  · have hle := hshort.length_le
    rw [← hns, List.length_append, List.length_singleton] at hle
    omega
  · have hsingle := List.singleton_inj.1 (List.append_cancel_left (hns.trans hlast))
    exact h ((String.append_right_inj last).1 hsingle).symm

/-! ## Spellings of one core -/

/-- Whether two texts of imports mean the same, wherever they stand and whatever files there are. -/
def ReadAlike (s t : String) : Prop :=
  ∀ (isFile : String → Bool) (importer : String) (language : Language),
    (resolve isFile importer s language).value = (resolve isFile importer t language).value

/-- Texts that are cleaned to the same are `ReadAlike`: `resolve` sees nothing else of them. -/
theorem readAlike_of_cleanSpecifier {s t : String} (h : cleanSpecifier s = cleanSpecifier t) :
    ReadAlike s t := by
  intro isFile importer language
  rw [value_resolve, value_resolve, h]

/-- Texts of which different leftovers are kept are not read alike. -/
theorem not_readAlike {s t core left other : String} (hleft : Leftover left) (hne : left ≠ "")
    (hother : Leftover other) (h : other ≠ left) (hs : cleanSpecifier s = some (core ++ left))
    (ht : cleanSpecifier t = if core ++ other = "" then none else some (core ++ other)) :
    ¬ ReadAlike s t := by
  intro halike
  obtain ⟨isFile, importer, path, hfound, hnot⟩ := exists_find?_ne hleft hne hother h core
  have hvalue := halike isFile importer .python
  rw [value_resolve_python, value_resolve_python, hs, Option.bind_some, hfound, ht] at hvalue
  split at hvalue
  · cases hvalue
  · rw [Option.bind_some] at hvalue
    exact hnot hvalue.symm

/-- **Two spellings of one core are read alike exactly if they are cleaned alike.** -/
theorem Spelling.readAlike_iff {core : String} (hcore : Core core) (sp tp : Spelling core) :
    ReadAlike sp.text tp.text ↔ cleanSpecifier sp.text = cleanSpecifier tp.text := by
  refine ⟨fun halike => ?_, readAlike_of_cleanSpecifier⟩
  obtain ⟨left, hs, -, hleft⟩ := sp.cleanSpecifier_text hcore
  obtain ⟨other, ht, -, hother⟩ := tp.cleanSpecifier_text hcore
  by_cases heq : left = other
  · rw [hs, ht, heq]
  · -- one of the two is not empty, and tells them apart
    have hkept : ∀ more : String, more ≠ "" → core ++ more ≠ "" := by
      intro more hmore hempty
      exact hmore (String.append_eq_empty_iff.1 hempty).2
    by_cases hempty : left = ""
    · have hne : other ≠ "" := fun hnil => heq (hempty.trans hnil.symm)
      rw [if_neg (hkept other hne)] at ht
      have hsym : ReadAlike tp.text sp.text := fun isFile importer language =>
        (halike isFile importer language).symm
      exact absurd hsym (not_readAlike hother hne hleft heq ht hs)
    · rw [if_neg (hkept left hempty)] at hs
      exact absurd halike (not_readAlike hleft hempty hother (Ne.symm heq) hs ht)

/-- **What cleaning leaves ends with a semicolon** exactly if the semicolons are not settled. -/
theorem Spelling.getLast?_cleaned {core cleaned : String} (hcore : Core core) (sp : Spelling core)
    (h : cleanSpecifier sp.text = some cleaned) :
    cleaned.toList.getLast? ≠ some ';' ↔ Settled sp.padding sp.query := by
  obtain ⟨left, hclean, hsettled, hleft⟩ := sp.cleanSpecifier_text hcore
  rw [hclean, Option.ite_none_left_eq_some, Option.some.injEq] at h
  rw [← h.2, ← hsettled]
  constructor
  · intro hlast
    by_contra hne
    exact hlast (Text.getLast?_append_of_eq_some (hleft.getLast? hne))
  · rintro rfl hlast
    rw [String.append_empty] at hlast
    exact (hcore.last ';' hlast).2 rfl

/-- A spelling is cleaned to its core exactly if its semicolons are settled. -/
theorem Spelling.cleanSpecifier_eq_core_iff {core : String} (hcore : Core core)
    (sp : Spelling core) :
    cleanSpecifier sp.text = (if core = "" then none else some core) ↔
      Settled sp.padding sp.query := by
  obtain ⟨left, hclean, hsettled, -⟩ := sp.cleanSpecifier_text hcore
  rw [hclean, ← hsettled]
  constructor
  · intro heq
    by_contra hne
    have hkept : core ++ left ≠ "" := fun hempty => hne (String.append_eq_empty_iff.1 hempty).2
    rw [if_neg hkept] at heq
    split at heq
    · cases heq
    · -- what is left would be longer than the core
      have hlength := congrArg String.length (Option.some.inj heq)
      rw [String.length_append] at hlength
      exact hne (String.length_eq_zero_iff.1 (by omega))
  · rintro rfl
    rw [String.append_empty]

/-- **How far cleaning reaches.** What is left of a text is not empty and has no white space at its
ends and no query. Cleaning it again takes nothing away exactly if it does not end with a semicolon.
Every text is a spelling of one core, and for whatever white space, semicolons and query it is
spelled with, cleaning leaves the core and no semicolon after it exactly if the semicolons stand in
one row and no query follows them. Two spellings of one core are read alike exactly if they are
cleaned alike; so one is read as those with settled semicolons are exactly if its own are
settled. -/
theorem cleaning_reaches_core_iff (s : String) :
    (∀ cleaned, cleanSpecifier s = some cleaned →
      cleaned ≠ "" ∧ (∀ c ∈ cleaned.toList.head?, Text.isBlank c = false) ∧
      (∀ c ∈ cleaned.toList.getLast?, Text.isBlank c = false) ∧
      (∀ c ∈ cleaned.toList, c ≠ '?' ∧ c ≠ '#') ∧
      (cleanSpecifier cleaned = some cleaned ↔ cleaned.toList.getLast? ≠ some ';')) ∧
    (∃ core, Core core ∧ ∃ sp : Spelling core, sp.text = s) ∧
    ∀ core, Core core → ∀ sp : Spelling core, sp.text = s →
      (∀ other, Core other → ∀ tp : Spelling other, tp.text = s → other = core) ∧
      (cleanSpecifier s = (if core = "" then none else some core) ↔
        Settled sp.padding sp.query) ∧
      (∀ cleaned, cleanSpecifier s = some cleaned →
        (cleaned.toList.getLast? ≠ some ';' ↔ Settled sp.padding sp.query)) ∧
      ∀ tp : Spelling core,
        (ReadAlike s tp.text ↔ cleanSpecifier s = cleanSpecifier tp.text) ∧
        (Settled tp.padding tp.query → (ReadAlike s tp.text ↔ Settled sp.padding sp.query)) := by
  refine ⟨fun cleaned => cleaned_again_iff, ⟨essence s, exists_spelling s⟩, ?_⟩
  rintro core hcore sp rfl
  refine ⟨fun other hother tp htext => ?_, sp.cleanSpecifier_eq_core_iff hcore,
    fun cleaned => sp.getLast?_cleaned hcore,
    fun tp => ⟨sp.readAlike_iff hcore tp, fun hsettled => ?_⟩⟩
  · rw [← tp.essence_text hother, htext, sp.essence_text hcore]
  · have htp := (tp.cleanSpecifier_eq_core_iff hcore).2 hsettled
    rw [sp.readAlike_iff hcore tp, htp, sp.cleanSpecifier_eq_core_iff hcore]

/-- **A semicolon is left** where another stands after white space, and where a query follows it.
Then what is left is not clean, and the file is not found. -/
theorem semicolon_left_at_end :
    let found := fun specifier => (resolve (· == "a.js") "b.js" specifier .javaScript).value
    cleanSpecifier "./a; ;" = some "./a;" ∧ cleanSpecifier "./a;?raw" = some "./a;" ∧
      cleanSpecifier "./a;" = some "./a" ∧
      found "./a" = some "a.js" ∧ found "./a; ;" = none ∧ found "./a;?raw" = none := by
  intro found
  have hspaced : cleanSpecifier "./a; ;" = some "./a;" := by decide
  have hquery : cleanSpecifier "./a;?raw" = some "./a;" := by decide
  have hplain : cleanSpecifier "./a" = some "./a" := by decide
  have hsteps : ∀ rest, steps .javaScript "b.js" ("./" ++ rest) = names ("./" ++ rest) := by
    intro rest
    have hhere : names (parentDir "b.js") = [] := by decide
    have hrelative : isRelative ("./" ++ rest) := by simp [isRelative]
    rw [steps_script (by decide), if_pos hrelative, hhere, List.nil_append]
  have hfound : ∀ s rest, cleanSpecifier s = some ("./" ++ rest) →
      found s = (follow (names ("./" ++ rest))).bind (probe (· == "a.js")) := by
    intro s rest hclean
    rw [← hsteps]
    exact (value_resolve_script (by decide) _ _ s).trans (by rw [hclean, Option.bind_some])
  refine ⟨hspaced, hquery, by decide, ?_, ?_, ?_⟩
  · exact (hfound "./a" "a" hplain).trans (by decide)
  · exact (hfound "./a; ;" "a;" hspaced).trans (by decide)
  · exact (hfound "./a;?raw" "a;" hquery).trans (by decide)

end Imports

end CodeGraph
