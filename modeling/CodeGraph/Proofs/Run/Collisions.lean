import CodeGraph.Proofs.Run.Identities

/-! # Files that are taken for one

A walk knows a file by its path below the root, with slashes in place of backslashes. A backslash
can be part of a name, and so two files can be known by one path. This happens exactly if their
names are the same once each name is cut at its backslashes (`Locator.relativePath_eq_iff`), and
never to names without backslashes (`Locator.segments_eq_iff`). Files that are known by one path are
reported under one path, and share a node (`Run.identities_collide_iff`). -/

namespace CodeGraph

/-! ## Cut at backslashes -/

namespace Path

/-- A name with slashes in place of backslashes is split where it is cut at backslashes. -/
theorem splitAll_slashed {name : String} (h : '/' ∉ name.toList) :
    Text.splitAll '/' (slashed name) = Text.splitAll '\\' name := by
  -- no part has a slash in it, and so none is split further
  have hparts : ∀ part ∈ Text.splitAll '\\' name, Text.splitAll '/' part = [part] :=
    fun part hpart => Text.splitAll_of_not_mem fun hmem => h (Text.mem_of_mem_splitAll hpart hmem)
  rw [slashed, Text.splitAll_map_slash, List.flatMap_congr hparts, List.flatMap_singleton']

/-- Separators are turned into slashes character by character. -/
theorem slashed_append (a b : String) : slashed (a ++ b) = slashed a ++ slashed b := by
  simp only [slashed, ← String.toList_inj, String.toList_map, String.toList_append, List.map_append]

/-- Joined names are split into what the names are cut into. -/
theorem splitAll_slashed_intercalate {ns : List String} (h : ProperNames ns) :
    Text.splitAll '/' (slashed ("/".intercalate ns)) = ns.flatMap (Text.splitAll '\\') := by
  obtain ⟨hne, hproper⟩ := h
  induction ns with
  | nil => exact absurd rfl hne
  | cons n ns ih =>
    have hn := splitAll_slashed (hproper n (List.mem_cons_self ..)).no_slash
    by_cases hns : ns = []
    · subst hns
      simpa using hn
    · have hslash : slashed "/" = "/" := slashed_eq_self (by simp)
      have hrest := ih hns fun name hname => hproper name (List.mem_cons_of_mem n hname)
      rw [String.intercalate_cons_of_ne_nil hns, slashed_append, slashed_append, hslash,
        Text.splitAll_append rfl, hn, hrest, List.flatMap_cons]

end Path

/-! ## Paths of places -/

namespace Locator

variable {l : Locator} {t : FileTree} {place place' : List String}

/-- The names of a place below the root, each of them cut at its backslashes. -/
def segments (l : Locator) (place : List String) : List String :=
  (place.drop l.root.length).flatMap (Text.splitAll '\\')

section Visited

variable {children : List (String × Entry)} (h : t.root.Proper)
  (hroot : t.root.at? l.root = some (.dir children)) (hplace : place ∈ l.places t)

include h hroot hplace

/-- A place that is visited is made of the root and of names below it. -/
theorem exists_properNames : ∃ parts, ProperNames parts ∧ place = l.root ++ parts := by
  obtain ⟨bytes, hbytes⟩ := exists_file_of_mem_places h hroot hplace
  obtain ⟨parts, hne, rfl⟩ := exists_append_of_mem_placesBelow hplace
  exact ⟨parts, ⟨hne, fun name hname => (h.of_at? hbytes).2 name (List.mem_append_right _ hname)⟩,
    rfl⟩

/-- The relative path of a place is split into its `segments`. -/
theorem splitAll_relativePath : Text.splitAll '/' (l.relativePath place) = l.segments place := by
  obtain ⟨parts, hparts, rfl⟩ := exists_properNames h hroot hplace
  rw [relativePath, segments, List.drop_left, Path.splitAll_slashed_intercalate hparts]

variable (hplace' : place' ∈ l.places t)

include hplace'

/-- **Two places are known by one path** exactly if they are cut into the same names. -/
theorem relativePath_eq_iff :
    l.relativePath place = l.relativePath place' ↔ l.segments place = l.segments place' := by
  rw [← splitAll_relativePath h hroot hplace, ← splitAll_relativePath h hroot hplace']
  exact (Text.splitAll_injective '/').eq_iff.symm

/-- Names without backslashes are not cut. -/
theorem segments_eq_iff
    (hnames : ∀ name ∈ place.drop l.root.length ++ place'.drop l.root.length,
      '\\' ∉ name.toList) :
    l.segments place = l.segments place' ↔ place = place' := by
  have huncut : ∀ {ns : List String}, (∀ name ∈ ns, '\\' ∉ name.toList) →
      ns.flatMap (Text.splitAll '\\') = ns := by
    intro ns hns
    have hone : ∀ name ∈ ns, Text.splitAll '\\' name = [name] :=
      fun name hname => Text.splitAll_of_not_mem (hns name hname)
    rw [List.flatMap_congr hone, List.flatMap_singleton']
  obtain ⟨parts, -, rfl⟩ := exists_properNames h hroot hplace
  obtain ⟨parts', -, rfl⟩ := exists_properNames h hroot hplace'
  simp only [List.drop_left, List.mem_append, or_imp, forall_and] at hnames
  rw [segments, segments, List.drop_left, List.drop_left, huncut hnames.1, huncut hnames.2,
    List.append_cancel_left_eq]

end Visited

end Locator

/-! ## Reports and nodes -/

/-- The nodes of a file that are its own: those of its batch that carry its path. -/
def Plan.ownNodes (facts : FileFacts) (resolved : List String) : List NodeKey :=
  ((batch facts resolved).ops.toList.flatMap Upsert.nodes).filter fun k => k.path = facts.path

/-- Files have a node in common exactly if they have the same path. -/
theorem Plan.exists_shared_node_iff {facts facts' : FileFacts} {resolved resolved' : List String} :
    (∃ k ∈ ownNodes facts resolved, k ∈ ownNodes facts' resolved') ↔ facts.path = facts'.path := by
  have hown : ∀ (f : FileFacts) (r : List String), .file f.path ∈ ownNodes f r := by
    intro f r
    have hop : .file f.path f.name ∈ (batch f r).ops.toList := by
      rw [Array.mem_toList_iff, mem_batch, file_mem_upserts_iff]
      exact ⟨rfl, rfl⟩
    refine List.mem_filter.2 ⟨List.mem_flatMap.2 ⟨_, hop, ?_⟩, ?_⟩
    · simp [Upsert.nodes]
    · simp [NodeKey.path]
  constructor
  · rintro ⟨k, hk, hk'⟩
    have hpath := (List.mem_filter.1 hk).2
    have hpath' := (List.mem_filter.1 hk').2
    rw [decide_eq_true_eq] at hpath hpath'
    exact hpath.symm.trans hpath'
  · -- the node of the file itself is among them
    intro hpath
    exact ⟨.file facts.path, hown facts resolved, hpath ▸ hown facts' resolved'⟩

namespace Run

variable {σ : Type} {backend : Backend σ} {around : Surroundings σ} {store : σ → Store}
  {config : RunConfig} {t : FileTree} {home : Option String} {l : Locator}
  {place place' : List String} {i j : Nat}

/-- A report that describes a file is filed under its relative path. -/
theorem Describes.path_eq {report : FileReport} (h : Describes config t l place report) :
    report.path = l.relativePath place := by
  rw [Describes] at h
  cases hi : inspect config t l place with
  | error e =>
    rw [hi] at h
    rw [h]
    rfl
  | ok given =>
    rw [hi] at h
    rcases h with rfl | ⟨e, rfl⟩
    · rfl
    · rfl

/-- **Files are taken for one exactly if their names are cut into the same.** Of two files of a walk
the paths, the paths of their reports, and their nodes are the same exactly if their places are cut
at backslashes into the same names. Places whose names have no backslashes are the same in that
case. Names are texts here and directories can always be listed, as in every `FileTree`: of names
that are no texts, and of directories that cannot be listed, this says nothing. -/
theorem identities_collide_iff (h : t.root.Proper) (hl : locator? config t home = some l)
    (hb : backend.Holds store) (ha : around.Still store t home)
    (hplace : (l.files t).value[i]? = some place) (hplace' : (l.files t).value[j]? = some place') :
    (l.relativePath place = l.relativePath place' ↔ l.segments place = l.segments place') ∧
      (∀ elapsed s summary report report',
        (run config backend around elapsed s).value.1 = .ok summary →
        summary.reports[i]? = some report → summary.reports[j]? = some report' →
        (report.path = report'.path ↔ l.segments place = l.segments place')) ∧
      (∀ facts resolved facts' resolved', inspect config t l place = .ok (facts, resolved) →
        inspect config t l place' = .ok (facts', resolved') →
        ((∃ k ∈ Plan.ownNodes facts resolved, k ∈ Plan.ownNodes facts' resolved') ↔
          l.segments place = l.segments place')) ∧
      ((∀ name ∈ place.drop l.root.length ++ place'.drop l.root.length, '\\' ∉ name.toList) →
        (l.segments place = l.segments place' ↔ place = place')) := by
  obtain ⟨children, hroot⟩ := Locator.at?_root_of_ofPath (locator?_eq_some_iff.1 hl)
  have hmem : place ∈ l.places t := by
    rw [← Locator.value_files]
    exact List.mem_of_getElem? hplace
  have hmem' : place' ∈ l.places t := by
    rw [← Locator.value_files]
    exact List.mem_of_getElem? hplace'
  -- reports and nodes are both known by the path, so all comes down to when paths are the same
  have hpaths := Locator.relativePath_eq_iff h hroot hmem hmem'
  refine ⟨hpaths, ?_, ?_, Locator.segments_eq_iff h hroot hmem hmem'⟩
  · intro elapsed s summary report report' hok hreport hreport'
    obtain ⟨l', visited, rest, hl', houtcome⟩ := exists_outcome hb ha hok
    obtain rfl : l = l' := Option.some.inj (hl.symm.trans hl')
    rw [(houtcome.describes hplace hreport).path_eq, (houtcome.describes hplace' hreport').path_eq,
      hpaths]
  · intro facts resolved facts' resolved' hgives hgives'
    rw [Plan.exists_shared_node_iff, (of_inspect_eq_ok hgives).1, (of_inspect_eq_ok hgives').1,
      hpaths]

/-! ## Two files under one path -/

/-- A repository with a file in a directory, and one whose name is the path of the first with a
backslash. -/
def backslashSample : FileTree :=
  { root := .dir [("repo", .dir
      [("a", .dir [("b.py", .file "".toUTF8)]), ("a\\b.py", .file "".toUTF8),
        ("c.py", .file "".toUTF8)])] }

/-- How it is ingested. -/
def backslashConfig : RunConfig := { root := "/repo", extensions := ["py"], ignoring := false }

/-- How it is walked. -/
def backslashWalk : Locator := { root := ["repo"], extensions := ["py"], ignoring := false }

/-- The sample is walked from its root. -/
theorem locator_backslashSample :
    locator? backslashConfig backslashSample none = some backslashWalk := by
  cbv

/-- The sample has proper names, each only once in its directory. -/
theorem proper_backslashSample : backslashSample.root.Proper := by
  have hname : ∀ name ∈ ["repo", "a", "b.py", "a\\b.py", "c.py"], ProperName name := by decide
  exact ⟨by decide, hname _ (by simp), ⟨by decide, hname _ (by simp),
    ⟨by decide, hname _ (by simp), trivial, trivial⟩, hname _ (by simp), trivial,
    hname _ (by simp), trivial, trivial⟩, trivial⟩

/-- The walk of the sample finds three files, of which two have the same relative path. -/
theorem files_backslashSample :
    (backslashWalk.files backslashSample).value
      = [["repo", "a", "b.py"], ["repo", "a\\b.py"], ["repo", "c.py"]] := by
  rw [Locator.value_files]
  cbv

/-- Two files that are reported under one path, and a third under another. -/
theorem identities_collide_iff_backslash :
    ∃ summary first second third,
      (run backslashConfig (.refusing fun _ => false) (.stopping backslashSample none 3) 0
        (0, .empty)).value.1 = .ok summary ∧
      summary.reports = [first, second, third] ∧
      backslashWalk.relativePath ["repo", "a", "b.py"]
        = backslashWalk.relativePath ["repo", "a\\b.py"] ∧
      first.path = second.path ∧ first.path ≠ third.path := by
  obtain ⟨summary, hok, hreports, -⟩ := run_interrupted locator_backslashSample 0 .empty
  rw [files_backslashSample] at hreports
  have hfirst : (backslashWalk.files backslashSample).value[0]? = some ["repo", "a", "b.py"] := by
    rw [files_backslashSample]
    rfl
  have hsecond : (backslashWalk.files backslashSample).value[1]? = some ["repo", "a\\b.py"] := by
    rw [files_backslashSample]
    rfl
  have hthird : (backslashWalk.files backslashSample).value[2]? = some ["repo", "c.py"] := by
    rw [files_backslashSample]
    rfl
  have hb := Backend.holds_refusing fun _ => false
  have ha := Surroundings.still_stopping backslashSample none 3
  obtain ⟨hpaths, hsame, -⟩ := identities_collide_iff proper_backslashSample
    locator_backslashSample hb ha hfirst hsecond
  obtain ⟨-, hother, -⟩ := identities_collide_iff proper_backslashSample
    locator_backslashSample hb ha hfirst hthird
  have hcut : backslashWalk.segments ["repo", "a", "b.py"]
      = backslashWalk.segments ["repo", "a\\b.py"] := by decide +kernel
  have huncut : backslashWalk.segments ["repo", "a", "b.py"]
      ≠ backslashWalk.segments ["repo", "c.py"] := by decide +kernel
  refine ⟨summary, _, _, _, hok, hreports, hpaths.2 hcut, ?_, ?_⟩
  · refine (hsame 0 (0, .empty) summary _ _ hok ?_ ?_).2 hcut
    all_goals
      rw [hreports]
      rfl
  · intro heq
    refine huncut ((hother 0 (0, .empty) summary _ _ hok ?_ ?_).1 heq)
    all_goals
      rw [hreports]
      rfl

/-- Two files of one walk that are known by one path. -/
theorem two_files_under_one_path :
    ∃ place ∈ (backslashWalk.files backslashSample).value,
      ∃ place' ∈ (backslashWalk.files backslashSample).value,
        place ≠ place' ∧ backslashWalk.relativePath place = "a/b.py" ∧
          backslashWalk.relativePath place' = "a/b.py" := by
  rw [files_backslashSample]
  refine ⟨["repo", "a", "b.py"], by simp, ["repo", "a\\b.py"], by simp, by decide, ?_, ?_⟩
  · decide +kernel
  · decide +kernel

end Run

end CodeGraph
