import CodeGraph.Imports
import CodeGraph.Proofs.Files.Below

/-! # Where imports lead

An import can be written in many ways: with dots, with steps up and with steps that do not count.
Whatever it is, the file that it is found to mean is given by joined names
(`Imports.exists_names_of_resolve`): all idle steps have been taken out of its path
(`Imports.exists_names_of_normalize`), and what is tried is that path with something more at its
end (`Imports.exists_names_of_mem_candidates`). -/

namespace CodeGraph

namespace Imports

variable {ns : List String}

/-- Steps that are taken leave proper names. -/
theorem properName_of_mem_takeSteps {kept parts : List String}
    (hkept : ∀ name ∈ kept, ProperName name) (hparts : ∀ part ∈ parts, '/' ∉ part.toList)
    (h : takeSteps kept parts = some ns) : ∀ name ∈ ns, ProperName name := by
  induction parts generalizing kept with
  | nil =>
    cases h
    exact fun name hname => hkept name (List.mem_reverse.1 hname)
  | cons part parts ih =>
    rw [List.forall_mem_cons] at hparts
    simp only [takeSteps] at h
    split at h
    · exact ih hkept hparts.2 h
    · next hidle =>
      split at h
      · -- a step up takes back the last name, if there is one
        cases kept with
        | nil => cases h
        | cons name kept => exact ih (List.forall_mem_cons.1 hkept).2 hparts.2 h
      · next hup =>
        have hpart : ProperName part := by
          simp only [Bool.or_eq_true, beq_iff_eq, not_or] at hidle hup
          exact ⟨hidle.1, hidle.2, hup, hparts.1⟩
        exact ih (List.forall_mem_cons.2 ⟨hpart, hkept⟩) hparts.2 h

/-- A path without idle steps is made of proper names. -/
theorem exists_names_of_normalize {path p : String} (h : normalize path = some p) :
    ∃ ns, (∀ name ∈ ns, ProperName name) ∧ p = "/".intercalate ns := by
  obtain ⟨ns, hns, rfl⟩ := Option.map_eq_some_iff.1 h
  refine ⟨ns, ?_, rfl⟩
  exact properName_of_mem_takeSteps (List.forall_mem_nil _)
    (fun _ => Text.not_mem_of_mem_splitAll) hns

/-- A name with an extension is proper if it is so without. -/
theorem properName_append_extension {name ext : String} (h : ProperName name)
    (hext : ext ∈ sourceExtensions) : ProperName (name ++ ("." ++ ext)) := by
  have hall : ∀ ext ∈ sourceExtensions, ext.length ≠ 0 ∧ '/' ∉ ("." ++ ext).toList := by
    simp [sourceExtensions]
  obtain ⟨hlength, hslash⟩ := hall ext hext
  have hname : name.length ≠ 0 := fun heq => h.ne_empty (String.length_eq_zero_iff.1 heq)
  have hlong : 2 < (name ++ ("." ++ ext)).length := by
    rw [String.length_append, String.length_append]
    have hdot : ".".length = 1 := rfl
    omega
  -- what is longer than two dots is none of the texts that are no names
  have hne : ∀ s : String, s.length ≤ 2 → name ++ ("." ++ ext) ≠ s :=
    fun s hs heq => absurd (heq ▸ hlong) (Nat.not_lt.2 hs)
  refine ⟨hne _ (by decide), hne _ (by decide), hne _ (by decide), ?_⟩
  rw [String.toList_append, List.mem_append, not_or]
  exact ⟨h.no_slash, hslash⟩

section Candidates

variable (hns : ∀ name ∈ ns, ProperName name)
include hns

/-- The path of some proper names is empty only if there are none. -/
theorem isEmpty_intercalate : ("/".intercalate ns).isEmpty ↔ ns = [] := by
  rw [String.isEmpty_iff]
  constructor
  · intro hempty
    by_cases hne : ns = []
    · exact hne
    · have hsplit := splitAll_intercalate hns hne
      rw [hempty] at hsplit
      have hmem : "" ∈ ns := by
        rw [← hsplit]
        simp [Text.splitAll]
      exact absurd rfl (hns "" hmem).ne_empty
  · rintro rfl
    exact String.intercalate_nil

/-- A name below a path of names is one more name of the path. -/
theorem below_intercalate (name : String) :
    below ("/".intercalate ns) name = "/".intercalate (ns ++ [name]) := by
  rw [below]
  split
  · next hempty =>
    rw [(isEmpty_intercalate hns).1 hempty, List.nil_append, String.intercalate_singleton]
  · next hempty =>
    have hne : ns ≠ [] := fun heq => hempty ((isEmpty_intercalate hns).2 heq)
    rw [String.intercalate_append_of_ne_nil hne (List.cons_ne_nil _ _),
      String.intercalate_singleton]

/-- Proper names with one more proper name at the end are proper. -/
theorem properNames_concat {name : String} (hname : ProperName name) :
    ProperNames (ns ++ [name]) := by
  refine ⟨by simp, fun n hn => ?_⟩
  rcases List.mem_append.1 hn with hn | hn
  · exact hns n hn
  · rw [List.mem_singleton.1 hn]
    exact hname

/-- **What is tried is made of proper names**: the path, perhaps with an extension at its last name
or with one more name. -/
theorem exists_names_of_mem_candidates {target : String}
    (h : target ∈ candidates ("/".intercalate ns)) :
    ∃ ms, ProperNames ms ∧ target = "/".intercalate ms := by
  have hindex : ∀ ext ∈ sourceExtensions, ProperName ("index." ++ ext) := by decide
  have hinit : ProperName "__init__.py" := by decide
  simp only [candidates, List.mem_append, List.mem_map, List.mem_singleton] at h
  rcases h with (h | ⟨ext, hext, rfl⟩) | rfl
  · split at h
    · cases h
    · next hempty =>
      have hne : ns ≠ [] := fun heq => hempty ((isEmpty_intercalate hns).2 heq)
      rcases List.mem_cons.1 h with rfl | h
      · exact ⟨ns, ⟨hne, hns⟩, rfl⟩
      · obtain ⟨ext, hext, rfl⟩ := List.mem_map.1 h
        obtain ⟨before, last, rfl⟩ := (List.eq_nil_or_concat' ns).resolve_left hne
        refine ⟨before ++ [last ++ ("." ++ ext)], ?_, ?_⟩
        · have hlast := properName_append_extension (hns last (by simp)) hext
          exact properNames_concat (fun name hname => hns name (List.mem_append_left _ hname)) hlast
        · rw [String.append_assoc, Text.intercalate_concat_append]
  · refine ⟨_, properNames_concat hns (hindex ext (List.mem_filter.1 hext).1), ?_⟩
    exact below_intercalate hns _
  · exact ⟨_, properNames_concat hns hinit, below_intercalate hns _⟩

end Candidates

/-- A file that is found is one that was tried. -/
theorem exists_names_of_probe {isFile : String → Bool} {path p target : String}
    (hp : normalize path = some p) (h : probe isFile p = some target) :
    isFile target ∧ ∃ ms, ProperNames ms ∧ target = "/".intercalate ms := by
  obtain ⟨ns, hns, rfl⟩ := exists_names_of_normalize hp
  exact ⟨List.find?_some h, exists_names_of_mem_candidates hns (List.mem_of_find?_eq_some h)⟩

/-- The file that an import means: one that its path can stand for, or else one that the path of the
module around it can stand for. -/
theorem value_resolve (isFile : String → Bool) (importer specifier : String) (language : Language) :
    (resolve isFile importer specifier language).value
      = (cleanSpecifier specifier).bind fun s =>
        (normalize (meant language importer s)).bind fun p =>
          (probe isFile p).or (probeParent isFile language importer s) := by
  unfold resolve
  cases cleanSpecifier specifier with
  | none => rfl
  | some s =>
    rw [Option.bind_some]
    dsimp only
    cases normalize (meant language importer s) with
    | none => rfl
    | some p =>
      rw [Option.bind_some]
      dsimp only
      cases (probe isFile p).or (probeParent isFile language importer s) with
      | some target => rfl
      | none => simp only [Logged.value_bind, Logged.value_pure]

/-- **An import means a file by joined names**, if it means any. -/
theorem exists_names_of_resolve {isFile : String → Bool} {importer specifier target : String}
    {language : Language} (h : (resolve isFile importer specifier language).value = some target) :
    isFile target ∧ ∃ ms, ProperNames ms ∧ target = "/".intercalate ms := by
  rw [value_resolve] at h
  obtain ⟨s, -, h⟩ := Option.bind_eq_some_iff.1 h
  obtain ⟨p, hp, h⟩ := Option.bind_eq_some_iff.1 h
  rcases Option.or_eq_some_iff.1 h with hprobe | ⟨-, hparent⟩
  · exact exists_names_of_probe hp hprobe
  · cases language with
    | python =>
      obtain ⟨parent, -, hparent⟩ := Option.bind_eq_some_iff.1 hparent
      obtain ⟨p', hp', hprobe⟩ := Option.bind_eq_some_iff.1 hparent
      exact exists_names_of_probe hp' hprobe
    | javaScript => cases hparent
    | typeScript => cases hparent

end Imports

end CodeGraph
