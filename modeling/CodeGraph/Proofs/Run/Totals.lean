import CodeGraph.Proofs.Graph.Totals
import CodeGraph.Proofs.Run.Recovery
import Mathlib

/-! # Totals of a run

What a run writes agrees with what it reports: the graph is the one that is written from the files
that are reported as ingested, with as many imports as their reports say (`Run.Wrote`). This holds
of one visit (`Run.exists_wrote_visitFile`) and so, whatever happens to the files on the way, of a
run. With the totals of what was written it follows that the totals of a run are sums over the
files (`Run.totals_are_additive`). -/

namespace CodeGraph

variable {σ : Type}

/-- The number of imports that were resolved, if the file was ingested. -/
def FileReport.resolvedImports? (r : FileReport) : Option Nat :=
  match r.outcome with
  | .ingested _ n => some n
  | .failed _ _ => none

/-- **A backend that tells the truth** about the totals of the graph that it holds, whenever it
tells anything. -/
def Backend.Reads (backend : Backend σ) (store : σ → Store) : Prop :=
  ∀ s totals s', (backend.counts s).value = (.ok totals, s') → totals = (store s).counts

/-- A backend that refuses some batches can be asked for the totals of the store it holds. -/
theorem Backend.reads_refusing (refused : Nat → Bool) :
    (Backend.refusing refused).Reads Prod.snd := by
  intro s totals s' h
  cases h
  rfl

namespace Run

/-! ## Imports of a file -/

/-- `addTarget` repeats no target. -/
theorem nodup_addTarget {targets : List String} (h : targets.Nodup) (target : Option String) :
    (addTarget targets target).Nodup := by
  cases target with
  | none => exact h
  | some t =>
    rw [addTarget]
    split
    · exact h
    · next hnew =>
      refine h.append (List.nodup_singleton t) ?_
      intro t' ht' hmem
      rw [List.mem_singleton] at hmem
      exact hnew (List.contains_iff_mem.2 (hmem ▸ ht'))

/-- No file is listed twice among those that are imported. -/
theorem nodup_resolveAll (isFile : String → Bool) (path : String) (language : Language)
    (imports : List ImportFact) {targets : List String} (h : targets.Nodup) :
    (resolveAll isFile path language targets imports).value.Nodup := by
  induction imports generalizing targets with
  | nil => exact h
  | cons i imports ih =>
    rw [resolveAll, Logged.value_bind]
    exact ih (nodup_addTarget h _)

/-- **What a file gives**, if it gives anything: the facts of a parsed text under the path of the
file, and the files that its imports mean. -/
theorem of_inspect_eq_ok {config : RunConfig} {t : FileTree} {l : Locator} {place : List String}
    {facts : FileFacts} {resolved : List String}
    (h : inspect config t l place = .ok (facts, resolved)) :
    facts.path = l.relativePath place ∧ facts.name = Path.baseName (l.relativePath place) ∧
      resolved = (resolveAll (isFileBelow t l.root) (l.relativePath place) facts.language []
        facts.imports).value := by
  simp only [inspect] at h
  split at h
  · cases h
  · split at h
    · cases h
    · cases h
      exact ⟨rfl, rfl, rfl⟩

/-! ## What is written and reported -/

/-- **What was written is what is reported**: the graph is that of some files, which are those
reported as ingested, with as many imports as reported. -/
structure Wrote (store : σ → Store) (r : Running σ) (files : List (FileFacts × List String)) :
    Prop where
  graph : store r.state = Store.empty.writeAll files
  paths : files.map (·.1.path) = (r.summary.reports.filter (!·.isFailed)).map (·.path)
  imports : files.map (·.2.length) = r.summary.reports.filterMap FileReport.resolvedImports?
  nodup : ∀ f ∈ files, f.2.Nodup

variable {config : RunConfig} {backend : Backend σ} {around : Surroundings σ} {l : Locator}
  {store : σ → Store} {r r' : Running σ} {files : List (FileFacts × List String)}

/-- A file that failed is reported, and nothing is written. -/
theorem Wrote.record_failed (h : Wrote store r files) (hstate : store r'.state = store r.state)
    {path : String} {e : IngestError}
    (hsummary : r'.summary = r.summary.record (.ofError path e)) : Wrote store r' files where
  graph := hstate.trans h.graph
  paths := by
    rw [hsummary, RunSummary.reports_record, List.filter_append, List.map_append, h.paths]
    simp [FileReport.ofError, FileReport.isFailed]
  imports := by
    rw [hsummary, RunSummary.reports_record, List.filterMap_append, h.imports]
    simp [FileReport.ofError, FileReport.resolvedImports?]
  nodup := h.nodup

/-- A file that is ingested is reported and written. -/
theorem Wrote.record_ingested (h : Wrote store r files) {facts : FileFacts} {resolved : List String}
    (hstate : store r'.state = (store r.state).apply (Plan.batch facts resolved))
    (hnodup : resolved.Nodup)
    (hsummary : r'.summary = r.summary.record
      ⟨facts.path, .ingested facts.counts resolved.length⟩) :
    Wrote store r' (files ++ [(facts, resolved)]) where
  graph := by
    rw [hstate, h.graph, Store.writeAll_concat]
  paths := by
    rw [hsummary, RunSummary.reports_record, List.filter_append, List.map_append, List.map_append,
      h.paths]
    simp [FileReport.isFailed]
  imports := by
    rw [hsummary, RunSummary.reports_record, List.filterMap_append, List.map_append, h.imports]
    simp [FileReport.resolvedImports?]
  nodup := by
    intro f hf
    rcases List.mem_append.1 hf with hf | hf
    · exact h.nodup f hf
    · rw [List.mem_singleton.1 hf]
      exact hnodup

/-- **One visit**: what was written stays what is reported. -/
theorem exists_wrote_visitFile (hb : backend.Holds store)
    (hmeanwhile : ∀ s, store (around.meanwhile s) = store s) (place : List String)
    (h : ∃ files, Wrote store r files) :
    ∃ files, Wrote store (visitFile config backend around l place r).value.state files := by
  obtain ⟨files, h⟩ := h
  by_cases hstop : around.stopRequested (around.meanwhile r.state)
  · rw [value_visitFile_of_stop hstop]
    exact ⟨files, (hmeanwhile _).trans h.graph, h.paths, h.imports, h.nodup⟩
  · cases hi : inspect config (around.tree (around.meanwhile r.state)) l place with
    | error e =>
      rw [value_visitFile_of_error hstop hi]
      exact ⟨files, h.record_failed (hmeanwhile _) rfl⟩
    | ok f =>
      obtain ⟨facts, resolved⟩ := f
      cases happly :
        (backend.apply (Plan.batch facts resolved) (around.meanwhile r.state)).value with
      | mk answer s =>
        cases answer with
        | error e =>
          rw [value_visitFile_of_refused hstop hi happly]
          exact ⟨files, h.record_failed ((hb.refused _ _ _ _ happly).trans (hmeanwhile _)) rfl⟩
        | ok u =>
          -- only here is something written: one more file, under its own path
          obtain ⟨hpath, -, hresolved⟩ := of_inspect_eq_ok hi
          rw [value_visitFile_of_accepted hstop hi happly, ← hpath]
          refine ⟨_, h.record_ingested ?_ ?_ rfl⟩
          · rw [← hmeanwhile r.state]
            exact hb.accepted _ _ _ happly
          · rw [hresolved]
            exact nodup_resolveAll _ _ _ _ List.nodup_nil

/-- **A whole run**: if the graph was empty, what is in it afterwards is what is reported. -/
theorem exists_wrote_run (hb : backend.Holds store)
    (hmeanwhile : ∀ s, store (around.meanwhile s) = store s) {elapsed : Nat} {s : σ}
    (hempty : store s = .empty) {summary : RunSummary}
    (hok : (run config backend around elapsed s).value.1 = .ok summary) :
    ∃ r files, Wrote store r files ∧ summary.reports = r.summary.reports ∧
      summary.graph = (backend.counts r.state).value.1.toOption := by
  obtain ⟨l, s', -, hverify, hrun⟩ := exists_ingest_of_run hok
  rw [hrun, value_ingest_eq] at hok
  cases hok
  have hstart : Wrote store { stage := .listing, state := s' } [] := by
    refine ⟨?_, rfl, rfl, List.forall_mem_nil _⟩
    have hs' := hb.verify s
    rw [hverify] at hs'
    exact hs'.trans hempty
  have hkeeps : ∀ place (r : Running σ), (∃ files, Wrote store r files) →
      ∃ files, Wrote store (visitFile config backend around l place r).value.state files :=
    fun place r => exists_wrote_visitFile hb hmeanwhile place
  obtain ⟨files, hfiles⟩ := Locator.visitAll_keeps hkeeps ⟨[], hstart⟩
  exact ⟨_, files, hfiles, rfl, rfl⟩

/-- The paths of files that were written are those of different reports. -/
theorem Wrote.nodup_paths (h : Wrote store r files)
    (hpaths : (r.summary.reports.map (·.path)).Nodup) : (files.map fun f => f.1.path).Nodup := by
  rw [h.paths]
  exact hpaths.sublist (List.filter_sublist.map _)

/-- Every import that was resolved is one link. -/
theorem Wrote.counts_imports (h : Wrote store r files)
    (hpaths : (r.summary.reports.map (·.path)).Nodup) :
    (store r.state).counts.imports
      = (r.summary.reports.filterMap FileReport.resolvedImports?).sum := by
  have hlength : ∀ f ∈ files, (Plan.linksOf f.1 f.2 .imports).toFinset.card = f.2.length := by
    intro f hf
    rw [Plan.card_imports, List.toFinset_card_of_nodup (h.nodup f hf)]
  calc (store r.state).counts.imports
      = (Store.empty.writeAll files).relationCount .imports := by rw [h.graph]; rfl
    _ = (files.map fun f => f.2.length).sum := by
        rw [Store.relationCount_writeAll_eq_sum (h.nodup_paths hpaths),
          List.map_congr_left hlength]
    _ = (r.summary.reports.filterMap FileReport.resolvedImports?).sum := by rw [h.imports]

/-- **Totals are additive over files.** Let files with different paths, none of them empty, be
written into an empty graph. Each link is one of one file, and so are functions and the classes that
files define: their totals are sums over the files, of the numbers of different names or pairs of
names. Classes that are inherited from are counted once for all files, and so are the files
themselves, written or only imported.

So after any run on an empty graph whose totals could be read, there are as many imports as the
reports of the ingested files say together, if no two reports have the same path. -/
theorem totals_are_additive :
    (∀ files : List (FileFacts × List String), (files.map fun f => f.1.path).Nodup →
      (∀ f ∈ files, f.1.path ≠ "") →
      let totals := (Store.empty.writeAll files).counts
      totals.definedIn = (files.map fun f => (f.1.functions.map (·.name)).toFinset.card
        + (f.1.classes.map (·.name)).toFinset.card).sum ∧
      totals.calls = (files.map fun f => f.1.callerPairs.toFinset.card).sum ∧
      totals.usedIn = (files.map fun f => (f.1.calls.map (·.callee)).toFinset.card).sum ∧
      totals.inherits = (files.map fun f => f.1.basePairs.toFinset.card).sum ∧
      totals.imports = (files.map fun f => f.2.toFinset.card).sum ∧
      totals.functions = (files.map fun f => f.1.functionMentions.toFinset.card).sum ∧
      totals.classes = (files.map fun f => (f.1.classes.map (·.name)).toFinset.card).sum
        + (files.flatMap fun f => f.1.classes.flatMap (·.bases)).toFinset.card ∧
      totals.files = (files.map (·.1.path) ++ files.flatMap (·.2)).toFinset.card) ∧
    ∀ (σ : Type) (config : RunConfig) (backend : Backend σ) (around : Surroundings σ)
      (store : σ → Store) (elapsed : Nat) (s : σ) (summary : RunSummary) (totals : GraphCounts),
      backend.Holds store → backend.Reads store →
      (∀ s, store (around.meanwhile s) = store s) → store s = .empty →
      (run config backend around elapsed s).value.1 = .ok summary →
      summary.graph = some totals → (summary.reports.map (·.path)).Nodup →
      totals.imports = (summary.reports.filterMap FileReport.resolvedImports?).sum := by
  refine ⟨fun files hpaths hne => ?_, ?_⟩
  · have hlinks := Store.relationCount_writeAll_eq_sum hpaths
    refine ⟨?_, ?_, ?_, ?_, ?_, Store.functions_writeAll hpaths, Store.classes_writeAll hpaths hne,
      Store.files_writeAll⟩
    · exact (hlinks .definedIn).trans (by simp only [Plan.card_definedIn])
    · exact (hlinks .calls).trans (by simp only [Plan.card_calls])
    · exact (hlinks .usedIn).trans (by simp only [Plan.card_usedIn])
    · exact (hlinks .inherits).trans (by simp only [Plan.card_inherits])
    · exact (hlinks .imports).trans (by simp only [Plan.card_imports])
  · intro σ config backend around store elapsed s summary totals hb hreads hmeanwhile hempty hok
      hgraph hpaths
    obtain ⟨r, files, hwrote, hreports, hcounts⟩ := exists_wrote_run hb hmeanwhile hempty hok
    -- the summary has totals only if the backend has told them, and it tells those of its store
    have htotals : totals = (store r.state).counts := by
      cases hc : (backend.counts r.state).value with
      | mk answer s' =>
        rw [hgraph, hc] at hcounts
        cases answer with
        | error e => cases hcounts
        | ok totals' =>
          cases hcounts
          exact hreads _ _ _ hc
    rw [hreports] at hpaths ⊢
    rw [htotals, hwrote.counts_imports hpaths]

/-- Two files that import each other, with classes that inherit from one class; and a run over two
such files of which the batch of one is refused. -/
theorem totals_are_additive_two_files :
    (let a : FileFacts :=
      { path := "a.py", name := "a.py", language := .python,
        functions := [⟨"f", "a.py", 1⟩, ⟨"f", "a.py", 9⟩], classes := [⟨"C", "a.py", ["B"], 2⟩],
        calls := [⟨some "f", "g", 3⟩, ⟨none, "g", 4⟩] }
    let b : FileFacts :=
      { path := "b.py", name := "b.py", language := .python,
        classes := [⟨"D", "b.py", ["B"], 1⟩], calls := [⟨none, "f", 2⟩] }
    (Store.empty.writeAll [(a, ["b.py"]), (b, ["a.py"])]).counts
      = { files := 2, functions := 3, classes := 3, definedIn := 3, imports := 2, calls := 1,
          usedIn := 2, inherits := 2 }) ∧
    let config : RunConfig := { root := "/repo", extensions := ["py"], ignoring := false }
    let files : Entry :=
      .dir [("a.py", .file "import b\n".toUTF8), ("b.py", .file "import a\n".toUTF8)]
    let t : FileTree := { root := .dir [("repo", files)] }
    ∃ summary totals,
      (run config (.refusing (· == 1)) (.stopping t none 2) 0 (0, .empty)).value.1 = .ok summary ∧
        summary.reports.map (·.path) = ["a.py", "b.py"] ∧ summary.graph = some totals ∧
        totals.imports = (summary.reports.filterMap FileReport.resolvedImports?).sum := by
  refine ⟨?_, ?_⟩
  · intro a b
    obtain ⟨hdefined, hcalls, hused, hinherits, himports, hfunctions, hclasses, hfiles⟩ :=
      totals_are_additive.1 [(a, ["b.py"]), (b, ["a.py"])] (by decide) (by decide)
    rw [GraphCounts.mk.injEq, hdefined, hcalls, hused, hinherits, himports, hfunctions, hclasses,
      hfiles]
    decide +kernel
  · intro config files t
    let l : Locator := { root := ["repo"], extensions := ["py"], ignoring := false }
    have hl : locator? config t none = some l := by cbv
    have hfiles : (l.files t).value = [["repo", "a.py"], ["repo", "b.py"]] := by
      rw [Locator.value_files]
      cbv
    have hrun : ∃ summary,
        (run config (.refusing (· == 1)) (.stopping t none 2) 0 (0, .empty)).value.1 = .ok summary ∧
          summary.reports = reportsFrom config t l (· == 1) 1 ((l.files t).value.take 2) ∧ _ :=
      run_interrupted hl 0 .empty
    obtain ⟨summary, hok, hreports, -⟩ := hrun
    have hpaths : summary.reports.map (·.path) = ["a.py", "b.py"] := by
      rw [hreports, map_path_reportsFrom, hfiles]
      decide +kernel
    obtain ⟨r, -, -, -, hgraph⟩ :=
      exists_wrote_run (Backend.holds_refusing _) (fun _ => rfl) rfl hok
    refine ⟨summary, r.state.2.counts, hok, hpaths, hgraph, ?_⟩
    refine totals_are_additive.2 _ config (.refusing (· == 1)) (.stopping t none 2) Prod.snd 0
      (0, .empty) summary _ (Backend.holds_refusing _) (Backend.reads_refusing _) (fun _ => rfl) rfl
      hok hgraph ?_
    rw [hpaths]
    decide

end Run

end CodeGraph
