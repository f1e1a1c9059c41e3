import CodeGraph.Proofs.Files.Resolution
import Mathlib.Logic.Relation

/-! # Paths without idle steps

A path is taken step by step, with the names that are kept on a stack (`Imports.takeSteps`). Here is
what comes of it, without a stack. Parts that are empty or a single dot fall away, and two dots
cancel the name next to them, as long as there is one (`Imports.Cancels`). What is left when only
names remain is the path (`Imports.takeSteps_eq_some_iff_leaves`), and it does not depend on the
order in which parts are cancelled. Nothing is left exactly if at some point there have been more
steps up than names (`Imports.climbs_filter_iff`).

Parts that are cancelled make no difference to what follows (`Imports.takeSteps_append`), so a
beginning can be replaced by what is left of it. -/

namespace CodeGraph.Imports

/-! ## Cancelling -/

/-- Whether a part of a path is a name: neither empty nor made of one or two dots. -/
def isOrdinary (part : String) : Bool := part != "" && part != "." && part != ".."

/-- A part of a path is ordinary if it is neither empty nor made of one or two dots. -/
theorem isOrdinary_iff {part : String} :
    isOrdinary part ↔ part ≠ "" ∧ part ≠ "." ∧ part ≠ ".." := by
  simp [isOrdinary, and_assoc]

/-- A proper name is ordinary. -/
theorem isOrdinary_of_properName {name : String} (h : ProperName name) : isOrdinary name :=
  isOrdinary_iff.2 ⟨h.ne_empty, h.ne_dot, h.ne_dots⟩

/-- A part falls away, is a step up, or is a name. -/
theorem part_cases (part : String) :
    (part = "" ∨ part = ".") ∨ part = ".." ∨ isOrdinary part := by
  rw [isOrdinary_iff]
  tauto

/-- **One part falls away, or two cancel each other**: a step up takes back the name before it. -/
inductive Cancels : List String → List String → Prop
  | idle (before after : List String) {part : String} (h : part = "" ∨ part = ".") :
      Cancels (before ++ part :: after) (before ++ after)
  | up (before after : List String) {name : String} (h : isOrdinary name) :
      Cancels (before ++ name :: ".." :: after) (before ++ after)

/-- **What parts leave** when all that can be cancelled is, and only names remain. -/
def Leaves (parts left : List String) : Prop :=
  Relation.ReflTransGen Cancels parts left ∧ ∀ part ∈ left, isOrdinary part

section Steps

variable {kept parts parts' left : List String}

/-- An empty part or a single dot is no step. -/
theorem takeSteps_idle {part : String} (h : part = "" ∨ part = ".") :
    takeSteps kept (part :: parts) = takeSteps kept parts := by
  rcases h with rfl | rfl <;> simp [takeSteps]

/-- A name is a step down. -/
theorem takeSteps_down {name : String} (h : isOrdinary name) :
    takeSteps kept (name :: parts) = takeSteps (name :: kept) parts := by
  obtain ⟨hempty, hdot, hdots⟩ := isOrdinary_iff.1 h
  simp [takeSteps, hempty, hdot, hdots]

/-- Two dots are a step back up from the last name. -/
theorem takeSteps_up {name : String} :
    takeSteps (name :: kept) (".." :: parts) = takeSteps kept parts := by
  simp [takeSteps]

/-- Two dots where there is nothing to go up from lead out of the root. -/
theorem takeSteps_up_nil : takeSteps [] (".." :: parts) = none := by simp [takeSteps]

/-- Names alone are steps down, all of them. -/
theorem takeSteps_ordinary (h : ∀ name ∈ left, isOrdinary name) :
    takeSteps kept (left ++ parts) = takeSteps (left.reverse ++ kept) parts := by
  induction left generalizing kept with
  | nil => rfl
  | cons name left ih =>
    rw [List.forall_mem_cons] at h
    rw [List.cons_append, takeSteps_down h.1, ih h.2, List.reverse_cons, List.append_assoc,
      List.singleton_append]

/-- Steps are taken one part of a path after the other. -/
theorem takeSteps_append (kept parts more : List String) :
    takeSteps kept (parts ++ more)
      = (takeSteps kept parts).bind fun left => takeSteps left.reverse more := by
  induction parts generalizing kept with
  | nil => simp [takeSteps]
  | cons part parts ih =>
    rw [List.cons_append]
    rcases part_cases part with hidle | rfl | hname
    · rw [takeSteps_idle hidle, takeSteps_idle hidle, ih]
    · cases kept with
      | nil => rw [takeSteps_up_nil, takeSteps_up_nil, Option.bind_none]
      | cons name kept => rw [takeSteps_up, takeSteps_up, ih]
    · rw [takeSteps_down hname, takeSteps_down hname, ih]

/-- Parts that are cancelled make no difference. -/
theorem takeSteps_of_cancels (h : Cancels parts parts') :
    takeSteps kept parts = takeSteps kept parts' := by
  cases h with
  | idle before after h => simp only [takeSteps_append kept before, takeSteps_idle h]
  | up before after h => simp only [takeSteps_append kept before, takeSteps_down h, takeSteps_up]

/-- Parts that leave names lead to these names: `takeSteps` cancels as `Leaves` does. -/
theorem takeSteps_of_leaves (h : Leaves parts left) : takeSteps [] parts = some left := by
  obtain ⟨hcancels, hleft⟩ := h
  have hdone : takeSteps [] left = some left := by
    have hsteps := @takeSteps_ordinary [] [] left hleft
    rw [List.append_nil, List.append_nil] at hsteps
    rw [hsteps, takeSteps, List.reverse_reverse]
  induction hcancels using Relation.ReflTransGen.head_induction_on with
  | refl => exact hdone
  | head hstep _ ih => exact (takeSteps_of_cancels hstep).trans ih

/-- The stack is what is left of the steps so far: each step is one that falls away, or cancels the
name on top, or is kept. -/
theorem leaves_of_takeSteps (hkept : ∀ name ∈ kept, isOrdinary name)
    (h : takeSteps kept parts = some left) : Leaves (kept.reverse ++ parts) left := by
  induction parts generalizing kept with
  | nil =>
    cases h
    rw [List.append_nil]
    exact ⟨.refl, fun name hname => hkept name (List.mem_reverse.1 hname)⟩
  | cons part parts ih =>
    rcases part_cases part with hidle | rfl | hpart
    · rw [takeSteps_idle hidle] at h
      obtain ⟨hcancels, hleft⟩ := ih hkept h
      exact ⟨.head (.idle _ _ hidle) hcancels, hleft⟩
    · cases kept with
      | nil =>
        rw [takeSteps_up_nil] at h
        cases h
      | cons name kept =>
        rw [List.forall_mem_cons] at hkept
        rw [takeSteps_up] at h
        obtain ⟨hcancels, hleft⟩ := ih hkept.2 h
        rw [List.reverse_cons, List.append_assoc]
        exact ⟨.head (.up _ _ hkept.1) hcancels, hleft⟩
    · rw [takeSteps_down hpart] at h
      have hleaves := ih (List.forall_mem_cons.2 ⟨hpart, hkept⟩) h
      rwa [List.reverse_cons, List.append_assoc] at hleaves

/-- **Steps lead to what they leave.** -/
theorem takeSteps_eq_some_iff_leaves : takeSteps [] parts = some left ↔ Leaves parts left :=
  ⟨leaves_of_takeSteps (List.forall_mem_nil _), takeSteps_of_leaves⟩

/-- Whether steps leave the root can be seen from all parts, since those that fall away count
neither as names nor as steps up. -/
theorem climbs_filter_iff (parts : List String) :
    Climbs 0 (parts.filter fun n => n != "" && n != ".") ↔
      ∃ before, before <+: parts ∧ before.countP isOrdinary < before.count ".." := by
  have hcounts : ∀ before : List String,
      (before.filter fun n => n != "" && n != ".").countP (· != "..")
        = before.countP isOrdinary ∧
      (before.filter fun n => n != "" && n != ".").count ".." = before.count ".." := by
    intro before
    refine ⟨?_, List.count_filter (by decide)⟩
    rw [List.countP_filter]
    refine List.countP_congr fun part _ => ?_
    simp [isOrdinary, and_comm, and_assoc]
  constructor
  · rintro ⟨steps, hsteps, hlt⟩
    obtain ⟨before, hbefore, rfl⟩ := List.prefix_filter_iff.1 hsteps
    rw [(hcounts before).1, (hcounts before).2, Nat.zero_add] at hlt
    exact ⟨before, hbefore, hlt⟩
  · rintro ⟨before, hbefore, hlt⟩
    refine ⟨_, hbefore.filter _, ?_⟩
    rwa [(hcounts before).1, (hcounts before).2, Nat.zero_add]

end Steps

/-! ## Normal paths -/

variable {p p' : String}

/-- Joined names are taken as they are. -/
theorem takeSteps_splitAll_intercalate {ns : List String} (h : ∀ name ∈ ns, ProperName name) :
    takeSteps [] (Text.splitAll '/' ("/".intercalate ns)) = some ns := by
  by_cases hne : ns = []
  · subst hne
    have hparts : Text.splitAll '/' "" = [""] := Text.splitAll_of_not_mem (by simp)
    rw [String.intercalate_nil, hparts, takeSteps_idle (.inl rfl)]
    rfl
  · rw [splitAll_intercalate h hne]
    exact takeSteps_of_leaves ⟨.refl, fun name hname => isOrdinary_of_properName (h name hname)⟩

/-- **When a path leads out of the root**: somewhere on it there are more steps up than names
before. -/
theorem normalize_eq_none_iff :
    normalize p = none ↔ ∃ before, before <+: Text.splitAll '/' p ∧
      before.countP isOrdinary < before.count ".." := by
  rw [← climbs_filter_iff, normalize, Option.map_eq_none_iff, Option.eq_none_iff_forall_ne_some]
  constructor
  · intro hnone
    by_contra hstays
    exact hnone _ (takeSteps_eq_some_iff.2 ⟨hstays, rfl⟩)
  · intro hclimbs ns hns
    exact (takeSteps_eq_some_iff.1 hns).1 hclimbs

/-- **What a path is normalized to**: the names that its parts leave, joined by slashes. -/
theorem normalize_eq_some_iff :
    normalize p = some p' ↔
      ∃ left, Leaves (Text.splitAll '/' p) left ∧ p' = "/".intercalate left := by
  rw [normalize, Option.map_eq_some_iff]
  refine exists_congr fun left => ?_
  rw [takeSteps_eq_some_iff_leaves, eq_comm]

/-- The parts of a normal path are what is left of the path. -/
theorem exists_takeSteps_of_normalize (h : normalize p = some p') :
    ∃ ns, (∀ name ∈ ns, ProperName name) ∧ p' = "/".intercalate ns ∧
      takeSteps [] (Text.splitAll '/' p) = some ns ∧
      takeSteps [] (Text.splitAll '/' p') = some ns := by
  obtain ⟨ns, hns, rfl⟩ := Option.map_eq_some_iff.1 h
  have hproper := properName_of_mem_takeSteps (List.forall_mem_nil _)
    (fun _ => Text.not_mem_of_mem_splitAll) hns
  exact ⟨ns, hproper, rfl, hns, takeSteps_splitAll_intercalate hproper⟩

/-- A path that has been normalized is its own normal form. -/
theorem normalize_of_normalize (h : normalize p = some p') : normalize p' = some p' := by
  obtain ⟨ns, -, rfl, -, hns⟩ := exists_takeSteps_of_normalize h
  rw [normalize, hns, Option.map_some]

/-- **A beginning can be replaced by its normal form**, whatever follows. -/
theorem normalize_append_of_normalize (h : normalize p = some p') (q : String) :
    normalize (p ++ "/" ++ q) = normalize (p' ++ "/" ++ q) := by
  obtain ⟨ns, -, -, hp, hp'⟩ := exists_takeSteps_of_normalize h
  rw [normalize, normalize, Text.splitAll_append rfl, Text.splitAll_append rfl, takeSteps_append,
    takeSteps_append, hp, hp']

/-- **The law of normal paths**, for every text. A path has no normal form exactly if some first
parts of it have more steps up in them than names. Otherwise its normal form is made of the names
that are left when each step up has cancelled the nearest name before it that is not cancelled yet.
So the parts of a normal form are names, unless it is empty and has none; a normal form is its own;
and a path can be replaced by its normal form before anything else that follows. -/
theorem normal_form_law (p : String) :
    (normalize p = none ↔ ∃ before, before <+: Text.splitAll '/' p ∧
      before.countP isOrdinary < before.count "..") ∧
    (∀ p', normalize p = some p' ↔
      ∃ left, Leaves (Text.splitAll '/' p) left ∧ p' = "/".intercalate left) ∧
    ∀ p', normalize p = some p' →
      (p' ≠ "" → ∀ part ∈ Text.splitAll '/' p', part ≠ "" ∧ part ≠ "." ∧ part ≠ "..") ∧
      normalize p' = some p' ∧
      ∀ q, normalize (p ++ "/" ++ q) = normalize (p' ++ "/" ++ q) := by
  refine ⟨normalize_eq_none_iff, fun p' => normalize_eq_some_iff, fun p' h =>
    ⟨fun hne part hpart => ?_, normalize_of_normalize h, normalize_append_of_normalize h⟩⟩
  obtain ⟨ns, hproper, rfl, -, -⟩ := exists_takeSteps_of_normalize h
  have hns : ns ≠ [] := by
    rintro rfl
    exact hne String.intercalate_nil
  rw [splitAll_intercalate hproper hns] at hpart
  have hpart := hproper part hpart
  exact ⟨hpart.ne_empty, hpart.ne_dot, hpart.ne_dots⟩

/-- A path with parts that fall away and two steps up in a row, and what follows it out of the
root. -/
theorem normal_form_law_up_twice :
    Leaves ["", "a", ".", "b", "..", "..", "c", ""] ["c"] ∧
      normalize "/a/./b/../../c/" = some "c" ∧ normalize "c" = some "c" ∧
      normalize "/a/./b/../../c//../../d" = none := by
  have hparts : Text.splitAll '/' "/a/./b/../../c/"
      = ["", "a", ".", "b", "..", "..", "c", ""] := by decide
  have hleaves : Leaves ["", "a", ".", "b", "..", "..", "c", ""] ["c"] := by
    refine ⟨.head (.idle [] _ (.inl rfl)) ?_, by simp [isOrdinary]⟩
    refine .head (.idle ["a"] ["b", "..", "..", "c", ""] (.inr rfl)) ?_
    refine .head (.up ["a"] ["..", "c", ""] (by simp [isOrdinary])) ?_
    refine .head (.up [] ["c", ""] (by simp [isOrdinary])) ?_
    exact .single (.idle ["c"] [] (.inl rfl))
  have hnormal : normalize "/a/./b/../../c/" = some "c" :=
    ((normal_form_law _).2.1 "c").2 ⟨["c"], hparts ▸ hleaves, rfl⟩
  obtain ⟨-, hself, hfollows⟩ := (normal_form_law _).2.2 "c" hnormal
  refine ⟨hleaves, hnormal, hself, (hfollows "../../d").trans ?_⟩
  -- after the name there are two steps up
  exact (normal_form_law ("c" ++ "/" ++ "../../d")).1.2 ⟨["c", "..", ".."], by decide, by decide⟩

end CodeGraph.Imports
