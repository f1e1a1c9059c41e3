import CodeGraph.Proofs.Files.Targets

/-! # Which files an import depends on

The paths that are tried for an import follow from its text and the importing file alone
(`Imports.probes`); the files only decide at which of them the search ends
(`Imports.value_resolve_eq_find?`). What is found is therefore the one that comes first among those
that are files (`Imports.idxOf_le_of_find?`), and two trees can be compared by the places that their
finds have in one and the same list. -/

namespace CodeGraph.Imports

/-! ## Searching a list -/

section Search

variable {α : Type} {p q : α → Bool} {xs : List α} {a b : α}

/-- A search depends only on what is true of the members. -/
theorem find?_congr_mem (h : ∀ x ∈ xs, p x = q x) : xs.find? p = xs.find? q := by
  induction xs with
  | nil => rfl
  | cons x xs ih =>
    rw [List.forall_mem_cons] at h
    rw [List.find?_cons, List.find?_cons, h.1, ih h.2]

variable [BEq α] [LawfulBEq α]

/-- What is found comes first among all that could be found. -/
theorem idxOf_le_of_find? (h : xs.find? p = some a) (hmem : b ∈ xs) (hb : p b) :
    xs.idxOf a ≤ xs.idxOf b := by
  induction xs with
  | nil => cases hmem
  | cons x xs ih =>
    rw [List.find?_cons] at h
    by_cases hx : p x
    · rw [hx] at h
      cases h
      rw [List.idxOf_cons_self]
      exact Nat.zero_le _
    · -- the first member is neither of the two, so that both are found in the rest
      rw [Bool.not_eq_true] at hx
      rw [hx] at h
      have hne : ∀ y, p y → (x == y) = false := by
        intro y hy
        rw [beq_eq_false_iff_ne]
        rintro rfl
        rw [hx] at hy
        cases hy
      have hrest : b ∈ xs := by
        refine (List.mem_cons.1 hmem).resolve_left ?_
        rintro rfl
        rw [hx] at hb
        cases hb
      rw [List.idxOf_cons, List.idxOf_cons, hne a (List.find?_some h), hne b hb]
      exact Nat.succ_le_succ (ih h hrest)

/-- **Where more can be found, something is found**, and nothing later. -/
theorem exists_find?_of_imp (h : xs.find? p = some a) (hq : q a) :
    ∃ b, xs.find? q = some b ∧ xs.idxOf b ≤ xs.idxOf a := by
  have hmem := List.mem_of_find?_eq_some h
  obtain ⟨b, hb⟩ := Option.isSome_iff_exists.1 (List.find?_isSome.2 ⟨a, hmem, hq⟩)
  exact ⟨b, hb, idxOf_le_of_find? hb hmem hq⟩

end Search

/-! ## The paths that are tried -/

/-- The paths that are tried for the module from which a name is imported, where the language has
such imports. -/
def parentProbes (language : Language) (importer specifier : String) : List String :=
  match language with
  | .python => ((pythonParent specifier).bind fun parent =>
      (normalize (pythonPath importer parent)).map candidates).getD []
  | .javaScript | .typeScript => []

/-- All paths that are tried for an import, in order: those that its path can stand for, and then
those that the path of the module around it can stand for. -/
def probes (language : Language) (importer specifier : String) : List String :=
  match cleanSpecifier specifier with
  | none => []
  | some s => match normalize (meant language importer s) with
    | none => []
    | some path => candidates path ++ parentProbes language importer s

/-- Where nothing is left of a text, nothing is tried for it. -/
theorem probes_of_clean_none {language : Language} {importer specifier : String}
    (h : cleanSpecifier specifier = none) : probes language importer specifier = [] := by
  unfold probes
  rw [h]

/-- What is tried for a text follows from the text that `cleanSpecifier` leaves. -/
theorem probes_of_clean_some {language : Language} {importer specifier s : String}
    (h : cleanSpecifier specifier = some s) :
    probes language importer specifier
      = ((normalize (meant language importer s)).map fun path =>
          candidates path ++ parentProbes language importer s).getD [] := by
  unfold probes
  rw [h]
  dsimp only
  cases normalize (meant language importer s) <;> rfl

/-- `probeParent` searches `parentProbes`. -/
theorem probeParent_eq_find? (isFile : String → Bool) (language : Language)
    (importer specifier : String) :
    probeParent isFile language importer specifier
      = (parentProbes language importer specifier).find? isFile := by
  cases language with
  | python =>
    rw [probeParent, parentProbes]
    cases pythonParent specifier with
    | none => rfl
    | some parent =>
      rw [Option.bind_eq_bind, Option.bind_some, Option.bind_some]
      cases normalize (pythonPath importer parent) <;> rfl
  | javaScript => rfl
  | typeScript => rfl

/-- **An import is a search through a list that no file has a part in.** -/
theorem value_resolve_eq_find? (isFile : String → Bool) (importer specifier : String)
    (language : Language) :
    (resolve isFile importer specifier language).value
      = (probes language importer specifier).find? isFile := by
  rw [value_resolve]
  cases hclean : cleanSpecifier specifier with
  | none =>
    rw [probes_of_clean_none hclean]
    rfl
  | some s =>
    rw [probes_of_clean_some hclean, Option.bind_some]
    cases normalize (meant language importer s) with
    | none => rfl
    | some path =>
      rw [Option.bind_some, probeParent_eq_find?, probe, ← List.find?_append, Option.map_some,
        Option.getD_some]

/-- **Imports depend on few files, and more files only help.** For one import and any two trees: if
they agree on which of the paths that are tried are files, the import means the same in both. If
each of these paths that is a file in the first tree is one in the second, so in particular if all
files of the first are files of the second, then an import that means something in the first means
something in the second as well, and it is the same or comes earlier among the paths that are tried,
of which those for the import itself come before those for the module around it. And what an import
means stays as it is when files are taken away, as long as that file is left. -/
theorem resolution_local_and_monotone (t t' : FileTree) (root root' : List String)
    (importer specifier : String) (language : Language) :
    let isFile := Run.isFileBelow t root
    let isFile' := Run.isFileBelow t' root'
    let found := (resolve isFile importer specifier language).value
    let found' := (resolve isFile' importer specifier language).value
    let probed := probes language importer specifier
    ((∀ path ∈ probed, isFile path = isFile' path) → found = found') ∧
      ((∀ path ∈ probed, isFile path → isFile' path) → ∀ target, found = some target →
        target ∈ probed ∧ ∃ target', found' = some target' ∧ target' ∈ probed ∧
          (target' = target ∨ probed.idxOf target' < probed.idxOf target)) ∧
      ((∀ path ∈ probed, isFile' path → isFile path) → ∀ target, found = some target →
        isFile' target → found' = some target) := by
  intro isFile isFile' found found' probed
  -- both searches go through the same list, which does not depend on the files
  have hfound : found = probed.find? isFile := value_resolve_eq_find? ..
  have hfound' : found' = probed.find? isFile' := value_resolve_eq_find? ..
  rw [hfound, hfound']
  refine ⟨find?_congr_mem, fun himp target htarget => ?_, fun himp target htarget hleft => ?_⟩
  · have hmem := List.mem_of_find?_eq_some htarget
    have hfile' := himp target hmem (List.find?_some htarget)
    obtain ⟨target', htarget', hle⟩ := exists_find?_of_imp htarget hfile'
    refine ⟨hmem, target', htarget', List.mem_of_find?_eq_some htarget', ?_⟩
    rcases Nat.lt_or_eq_of_le hle with hlt | heq
    · exact .inr hlt
    · exact .inl ((List.idxOf_inj (List.mem_of_find?_eq_some htarget')).1 heq)
  · obtain ⟨target', htarget', hle⟩ := exists_find?_of_imp htarget hleft
    have hmem' := List.mem_of_find?_eq_some htarget'
    -- nothing new is a file, so the search cannot stop before the old target either
    have hge := idxOf_le_of_find? htarget hmem' (himp target' hmem' (List.find?_some htarget'))
    rw [htarget', (List.idxOf_inj hmem').1 (Nat.le_antisymm hle hge)]

end CodeGraph.Imports
