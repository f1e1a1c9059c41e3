import CodeGraph.Proofs.Files.Contents
import CodeGraph.Proofs.Files.Places
import CodeGraph.Proofs.Run.Recovery
import Mathlib

/-! # Failures stay with their files

What a run reports of a file and writes for it depends on that file, on which other files there are,
and on whether the backend takes its batch, but not on what becomes of other files
(`failures_are_isolated`).

There are two reasons. What is known of a file before its batch is written (`inspect`) is read off
the tree, and does not change when other files do (`inspect_congr`). And what is reported after the
batch is written is decided by the answer to that one batch (`visitFile_decided`, and for a whole
walk `visitEach_decided`). -/

namespace CodeGraph

variable {σ : Type}

/-- **A backend that decides by batches**: what it answers to a batch does not depend on its
state. -/
def Backend.Decides (backend : Backend σ) (refuse : Batch → Option GraphError) : Prop :=
  ∀ b s, (backend.apply b s).value.1 = match refuse b with
    | none => .ok ()
    | some e => .error e

namespace Run

variable {config : RunConfig} {t t' : FileTree} {l : Locator} {differs : List String → Prop}
  {place : List String}

/-! ## What a file gives -/

/-- What a file gives does not depend on what other files hold. -/
theorem inspect_congr (h : t.SameBut differs t')
    (hother : t.Avoids differs (FileTree.absolute place)) :
    inspect config t' l place = inspect config t l place := by
  have hisFile : isFileBelow t' l.root = isFileBelow t l.root := funext fun path => h.isFile _
  simp only [inspect, h.read hother, hisFile]

/-- A walk finds the same files whatever those hold that are not consulted for ignore rules. -/
theorem files_congr (h : t.SameBut differs t') (hconsults : ∀ f, differs f → ¬ l.Consults t f) :
    (l.files t').value = (l.files t).value := by
  rw [Locator.value_files, Locator.value_files, Locator.places_congr h hconsults]

/-- The path of a file that is visited leads to that file. -/
theorem avoids_of_mem_files {home : Option String} (h : t.root.Proper)
    (hl : locator? config t home = some l) (hplace : place ∈ (l.files t).value)
    (hother : ¬ differs place) : t.Avoids differs (FileTree.absolute place) := by
  rw [Locator.value_files] at hplace
  intro f hf
  rw [Locator.resolve_of_mem_places h (locator?_eq_some_iff.1 hl) hplace] at hf
  cases hf
  exact hother

/-- **What a file adds to the graph**: nothing if it failed, at whatever stage, and else the batch
of the facts of which the report gives the numbers. -/
def Adds (config : RunConfig) (t : FileTree) (l : Locator) (place : List String)
    (report : FileReport) : Prop :=
  match report.outcome with
  | .failed _ _ => written config t l [place] [report] = []
  | .ingested counts n => ∃ facts resolved, inspect config t l place = .ok (facts, resolved) ∧
      counts = facts.counts ∧ n = resolved.length ∧
      written config t l [place] [report] = [.apply (Plan.batch facts resolved)]

/-- A report that describes a file says what the file adds to the graph. -/
theorem Describes.adds {report : FileReport} (h : Describes config t l place report) :
    Adds config t l place report := by
  rw [Describes] at h
  simp only [Adds, written_singleton, planned?]
  cases hi : inspect config t l place with
  | error e =>
    rw [hi] at h
    rw [h]
    rfl
  | ok given =>
    obtain ⟨facts, resolved⟩ := given
    rw [hi] at h
    rcases h with rfl | ⟨e, rfl⟩
    · exact ⟨facts, resolved, rfl, rfl, rfl, rfl⟩
    · rfl

/-- Two reports of the same file are the same unless its batch was refused. -/
theorem Describes.eq_or_refused {report report' : FileReport}
    (h : Describes config t l place report) (h' : Describes config t l place report') :
    report' = report ∨ ∃ problem, report.outcome = .failed .writing problem ∨
      report'.outcome = .failed .writing problem := by
  rw [Describes] at h h'
  cases hi : inspect config t l place with
  | error e =>
    rw [hi] at h h'
    exact .inl (h'.trans h.symm)
  | ok given =>
    rw [hi] at h h'
    rcases h with rfl | ⟨e, rfl⟩
    · rcases h' with rfl | ⟨e, rfl⟩
      · exact .inl rfl
      · exact .inr ⟨_, .inr rfl⟩
    · exact .inr ⟨_, .inl rfl⟩

/-! ## Backends that decide by batches -/

/-- The report of a file, given which batches are refused. -/
def reportBy (config : RunConfig) (t : FileTree) (l : Locator) (refuse : Batch → Option GraphError)
    (place : List String) : FileReport :=
  match inspect config t l place with
  | .error e => .ofError (l.relativePath place) e
  | .ok (facts, resolved) => match refuse (Plan.batch facts resolved) with
    | none => ⟨l.relativePath place, .ingested facts.counts resolved.length⟩
    | some e => .ofError (l.relativePath place) (.write (l.relativePath place) e)

/-- The report of a file depends on what the file gives and on whether its batch is refused
alone. -/
theorem reportBy_congr {refuse refuse' : Batch → Option GraphError}
    (hinspect : inspect config t' l place = inspect config t l place)
    (hrefuse : ∀ b, planned? config t l place = some b → refuse' b = refuse b) :
    reportBy config t' l refuse' place = reportBy config t l refuse place := by
  rw [reportBy, reportBy, hinspect]
  cases hi : inspect config t l place with
  | error e => rfl
  | ok given =>
    obtain ⟨facts, resolved⟩ := given
    rw [planned?, hi] at hrefuse
    simp only [hrefuse _ rfl]

variable {backend : Backend σ} {around : Surroundings σ} {store : σ → Store}
  {home : Option String} {refuse : Batch → Option GraphError}

/-- **One visit**: it ends the run, or its report is decided by what the file gives. -/
theorem visitFile_decided (config : RunConfig) (l : Locator) (ha : around.Still store t home)
    (hd : backend.Decides refuse) (place : List String) (r : Running σ) :
    (∃ r', (visitFile config backend around l place r).value = .ended r' ∧
      r'.summary.reports = r.summary.reports) ∨
    ∃ r', (visitFile config backend around l place r).value = .going r' ∧
      r'.summary = r.summary.record (reportBy config t l refuse place) := by
  by_cases hstop : around.stopRequested (around.meanwhile r.state)
  · -- the run ends before the file is looked at
    exact .inl ⟨_, value_visitFile_of_stop hstop, rfl⟩
  · right
    have htree := ha.tree (around.meanwhile r.state)
    cases hi : inspect config t l place with
    | error e =>
      refine ⟨_, value_visitFile_of_error hstop (htree ▸ hi), ?_⟩
      rw [reportBy, hi]
    | ok given =>
      obtain ⟨facts, resolved⟩ := given
      have hanswer := hd (Plan.batch facts resolved) (around.meanwhile r.state)
      cases happly :
        (backend.apply (Plan.batch facts resolved) (around.meanwhile r.state)).value with
      | mk answer s =>
        rw [happly] at hanswer
        simp only [reportBy, hi]
        cases hrefuse : refuse (Plan.batch facts resolved) with
        | none =>
          rw [hrefuse] at hanswer
          cases hanswer
          exact ⟨_, value_visitFile_of_accepted hstop (htree ▸ hi) happly, rfl⟩
        | some e =>
          rw [hrefuse] at hanswer
          cases hanswer
          exact ⟨_, value_visitFile_of_refused hstop (htree ▸ hi) happly, rfl⟩

/-- **All visits of a walk**: each file that is visited has the report that is decided by what it
gives. -/
theorem visitEach_decided (config : RunConfig) (l : Locator) (ha : around.Still store t home)
    (hd : backend.Decides refuse) (places : List (List String)) (r : Running σ) :
    ∃ n, (Locator.visitEach (visitFile config backend around l) places r).state.summary.reports
      = r.summary.reports ++ (places.take n).map (reportBy config t l refuse) := by
  induction places generalizing r with
  | nil => exact ⟨0, (List.append_nil _).symm⟩
  | cons place places ih =>
    rw [Locator.visitEach]
    rcases visitFile_decided config l ha hd place r with
      ⟨r', hvalue, hreports⟩ | ⟨r', hvalue, hsummary⟩
    · refine ⟨0, ?_⟩
      rw [hvalue, List.take_zero, List.map_nil, List.append_nil]
      exact hreports
    · obtain ⟨n, hn⟩ := ih r'
      refine ⟨n + 1, ?_⟩
      rw [hvalue, hn, hsummary, RunSummary.reports_record, List.append_assoc, List.take_succ_cons,
        List.map_cons]
      rfl

/-- The report of each file, given which batches are refused. -/
theorem reports_decided (hb : backend.Holds store) (ha : around.Still store t home)
    (hd : backend.Decides refuse) (hl : locator? config t home = some l) {elapsed : Nat} {s : σ}
    {summary : RunSummary} (hok : (run config backend around elapsed s).value.1 = .ok summary) :
    ∃ n, summary.reports = ((l.files t).value.take n).map (reportBy config t l refuse) := by
  obtain ⟨l', s', hl', -, hrun⟩ := exists_ingest_of_run hok
  rw [ha.tree, ha.home] at hl'
  cases hl.symm.trans hl'
  obtain ⟨graph, s'', hvalue, -⟩ := value_ingest config l hb ha elapsed s'
  obtain ⟨n, hn⟩ := visitEach_decided config l ha hd (l.files t).value
    { stage := .listing, state := s' }
  rw [hrun, hvalue] at hok
  cases hok
  exact ⟨n, hn⟩

/-! ## Isolation -/

/-- **What a run has done**: it has visited a first part of the files, all of them unless it was
stopped, and each report is one that the file can get; the graph is the one before with the batches
of the files that are reported as ingested, in the order of the walk. -/
structure Outcome (config : RunConfig) (t : FileTree) (l : Locator) (summary : RunSummary)
    (visited rest : List (List String)) (before after : Store) : Prop where
  files : (l.files t).value = visited ++ rest
  complete : summary.stopped = false → rest = []
  reports : List.Forall₂ (Describes config t l) visited summary.reports
  graph : after = before.performAll (written config t l visited summary.reports)

/-- **Every run that ends has an `Outcome`**, over any backend that holds a store. -/
theorem exists_outcome (hb : backend.Holds store) (ha : around.Still store t home) {elapsed : Nat}
    {s : σ} {summary : RunSummary}
    (hok : (run config backend around elapsed s).value.1 = .ok summary) :
    ∃ l visited rest, locator? config t home = some l ∧
      Outcome config t l summary visited rest (store s)
        (store (run config backend around elapsed s).value.2.2) := by
  rcases run_effect config hb ha elapsed s with ⟨e, herror, -⟩ | ⟨l, summary', visited, rest, hl,
    hok', hfiles, hrest, hreports, hgraph⟩
  · cases hok.symm.trans herror
  · cases hok.symm.trans hok'
    exact ⟨l, visited, rest, hl, hfiles, hrest, hreports, hgraph⟩

namespace Outcome

variable {summary : RunSummary} {visited rest : List (List String)} {before after : Store}
  {i : Nat} {report : FileReport}

/-- The report with a number is of the file with that number. -/
theorem describes (h : Outcome config t l summary visited rest before after)
    (hplace : (l.files t).value[i]? = some place) (hreport : summary.reports[i]? = some report) :
    Describes config t l place report := by
  obtain ⟨hlength, hall⟩ := List.forall₂_iff_zip.1 h.reports
  have hlt : i < visited.length := by
    rw [hlength]
    exact (List.getElem?_eq_some_iff.1 hreport).1
  rw [h.files, List.getElem?_append_left hlt] at hplace
  exact hall (List.mem_of_getElem? (List.getElem?_zip_eq_some.2 ⟨hplace, hreport⟩))

end Outcome

/-- Where batches are refused by what they are, each report is decided by the file. -/
theorem report_eq_reportBy (hb : backend.Holds store) (ha : around.Still store t home)
    (hd : backend.Decides refuse) (hl : locator? config t home = some l) {elapsed : Nat} {s : σ}
    {summary : RunSummary} (hok : (run config backend around elapsed s).value.1 = .ok summary)
    {i : Nat} {report : FileReport} (hplace : (l.files t).value[i]? = some place)
    (hreport : summary.reports[i]? = some report) : report = reportBy config t l refuse place := by
  obtain ⟨n, hn⟩ := reports_decided hb ha hd hl hok
  rw [hn, List.getElem?_map, List.getElem?_take] at hreport
  split at hreport
  · rw [hplace] at hreport
    exact (Option.some.inj hreport).symm
  · cases hreport

/-- **Failures stay with their files.** A run that comes to its end leaves the graph with the
batches of the files that it reports as ingested, in the order of the walk; each of these batches is
given by the files alone, and a file that failed adds nothing.

Now let some files hold something else, or be readable or not, in another run with any backend. Then
the same files are visited, each of the others gives the same facts and batch as before, and it has
the same report, unless its own batch is refused in one run; where backends refuse batches by what
they are, it has the same report if its own batch is treated alike. The others are the files whose
paths lead to none of those that differ; where names are proper, these are all but those that
differ. -/
theorem failures_are_isolated (hb : backend.Holds store) (ha : around.Still store t home)
    {elapsed : Nat} {s : σ} {summary : RunSummary}
    (hok : (run config backend around elapsed s).value.1 = .ok summary) :
    ∃ l visited rest, locator? config t home = some l ∧
      Outcome config t l summary visited rest (store s)
        (store (run config backend around elapsed s).value.2.2) ∧
      (∀ (i : Nat) place report, (l.files t).value[i]? = some place →
        summary.reports[i]? = some report → Adds config t l place report) ∧
      ∀ (differs : List String → Prop) (t' : FileTree), t.SameBut differs t' →
        (∀ f, differs f → ¬ l.Consults t f) →
        ∀ (σ' : Type) (backend' : Backend σ') (around' : Surroundings σ') (store' : σ' → Store)
          (elapsed' : Nat) (s' : σ') (summary' : RunSummary),
          backend'.Holds store' → around'.Still store' t' home →
          (run config backend' around' elapsed' s').value.1 = .ok summary' →
          (l.files t').value = (l.files t).value ∧
          (∃ visited' rest', Outcome config t' l summary' visited' rest' (store' s')
            (store' (run config backend' around' elapsed' s').value.2.2)) ∧
          ∀ (i : Nat) (place : List String) (report report' : FileReport),
            (l.files t).value[i]? = some place →
            (t.Avoids differs (FileTree.absolute place) ∨ t.root.Proper ∧ ¬ differs place) →
            summary.reports[i]? = some report → summary'.reports[i]? = some report' →
            inspect config t' l place = inspect config t l place ∧
            (report' = report ∨ ∃ problem, report.outcome = .failed .writing problem ∨
              report'.outcome = .failed .writing problem) ∧
            ∀ refuse refuse', backend.Decides refuse → backend'.Decides refuse' →
              (∀ b, planned? config t l place = some b → refuse' b = refuse b) →
              report' = report := by
  obtain ⟨l, visited, rest, hl, houtcome⟩ := exists_outcome hb ha hok
  refine ⟨l, visited, rest, hl, houtcome, fun i place report hplace hreport =>
    (houtcome.describes hplace hreport).adds, ?_⟩
  intro differs t' hsame hconsults σ' backend' around' store' elapsed' s' summary' hb' ha' hok'
  obtain ⟨l', visited', rest', hl', houtcome'⟩ := exists_outcome hb' ha' hok'
  -- the walk is the same in both trees
  obtain rfl : l' = l := by
    rw [locator?, Locator.ofPath_congr hsame, ← locator?, hl] at hl'
    exact (Option.some.inj hl').symm
  have hfiles := files_congr hsame hconsults
  refine ⟨hfiles, ⟨visited', rest', houtcome'⟩, ?_⟩
  intro i place report report' hplace hother hreport hreport'
  have hplace' : (l'.files t').value[i]? = some place := hfiles ▸ hplace
  have hinspect : inspect config t' l' place = inspect config t l' place :=
    inspect_congr hsame (hother.elim id fun h => avoids_of_mem_files h.1 hl
      (List.mem_of_getElem? hplace) h.2)
  refine ⟨hinspect, ?_, fun refuse refuse' hd hd' hrefuse => ?_⟩
  · -- both reports are of the same file, seen in trees in which it gives the same
    have hdescribes := houtcome'.describes hplace' hreport'
    rw [Describes, hinspect, ← Describes] at hdescribes
    exact (houtcome.describes hplace hreport).eq_or_refused hdescribes
  · rw [report_eq_reportBy hb ha hd hl hok hplace hreport,
      report_eq_reportBy hb' ha' hd' hl' hok' hplace' hreport', reportBy_congr hinspect hrefuse]

/-- A file that may not be read in one run and may be read in another; the file beside it, which
imports it, has the same report in both. -/
theorem failures_are_isolated_locked_file :
    let config : RunConfig := { root := "/repo", extensions := ["py"], ignoring := false }
    let files : Entry :=
      .dir [("a.py", .file "import b\n".toUTF8), ("b.py", .file "import a\n".toUTF8)]
    let t : FileTree := { root := .dir [("repo", files)], locked := [["repo", "a.py"]] }
    let result := fun t : FileTree =>
      (run config (.refusing fun _ => false) (.stopping t none 2) 0 (0, .empty)).value.1
    ∃ summary summary' first second problem, result t = .ok summary ∧
      result { t with locked := [] } = .ok summary' ∧ summary.reports = [first, second] ∧
      first.outcome = .failed .reading problem ∧ summary'.reports[1]? = some second := by
  intro config files t result
  let t' : FileTree := { t with locked := [] }
  let l : Locator := { root := ["repo"], extensions := ["py"], ignoring := false }
  let differs : List String → Prop := (· = ["repo", "a.py"])
  have hl : locator? config t none = some l := by cbv
  have hl' : locator? config t' none = some l := by cbv
  have hfiles : (l.files t).value = [["repo", "a.py"], ["repo", "b.py"]] := by
    rw [Locator.value_files]
    cbv
  have hsame : t.SameBut differs t' :=
    ⟨rfl, fun _ _ _ => Iff.rfl, fun place hplace => by simpa [t, t'] using hplace⟩
  have hnone : ∀ f, differs f → ¬ l.Consults t f := fun f _ hc => by cases hc.1
  have hproper : t.root.Proper := by
    have hname : ∀ name ∈ ["repo", "a.py", "b.py"], ProperName name := by
      intro name hname
      simp only [List.mem_cons, List.not_mem_nil, or_false] at hname
      rcases hname with rfl | rfl | rfl <;> exact ⟨by decide, by decide, by decide, by decide⟩
    exact ⟨by decide, hname _ (by simp), ⟨by decide, hname _ (by simp), trivial,
      hname _ (by simp), trivial, trivial⟩, trivial⟩
  -- the file is there, but locked
  have hread : t.read (FileTree.absolute ["repo", "a.py"]) = .error .notPermitted := by
    rw [FileTree.read, FileTree.resolve_absolute hproper rfl (fun _ heq => by cases heq)
      fun heq => by cases heq]
    rfl
  have hreports : ∀ t₁ : FileTree, locator? config t₁ none = some l →
      (l.files t₁).value = [["repo", "a.py"], ["repo", "b.py"]] → ∃ summary,
        result t₁ = .ok summary ∧ summary.reports = [reportOf config t₁ l false ["repo", "a.py"],
          reportOf config t₁ l false ["repo", "b.py"]] :=
    fun t₁ hl₁ hfiles₁ => by
      obtain ⟨summary, hok, hreports, -⟩ := run_interrupted hl₁ 0 .empty
      rw [hfiles₁] at hreports
      exact ⟨summary, hok, hreports⟩
  obtain ⟨summary, hok, hsummary⟩ := hreports t hl hfiles
  obtain ⟨summary', hok', hsummary'⟩ := hreports t' hl' ((files_congr hsame hnone).trans hfiles)
  have hfailed : ∃ problem, (reportOf config t l false ["repo", "a.py"]).outcome
      = .failed .reading problem := by
    simp only [reportOf, inspect, hread]
    exact ⟨_, rfl⟩
  obtain ⟨problem, hproblem⟩ := hfailed
  refine ⟨summary, summary', _, _, problem, hok, hok', hsummary, hproblem, ?_⟩
  obtain ⟨l₁, -, -, hl₁, -, -, hall⟩ := failures_are_isolated (Backend.holds_refusing _)
    (Surroundings.still_stopping t none 2) hok
  obtain rfl : l = l₁ := Option.some.inj (hl.symm.trans hl₁)
  obtain ⟨-, -, hother⟩ := hall differs t' hsame hnone _ _ _ _ 0 _ summary'
    (Backend.holds_refusing _) (Surroundings.still_stopping t' none 2) hok'
  obtain ⟨-, -, hequal⟩ := hother 1 ["repo", "b.py"] _ _ (by rw [hfiles]; rfl)
    (.inr ⟨hproper, by decide⟩) (by rw [hsummary]; rfl) (by rw [hsummary']; rfl)
  rw [hsummary', ← hequal (fun _ => none) (fun _ => none) (fun _ _ => rfl) (fun _ _ => rfl)
    fun _ _ => rfl]
  rfl

end Run

end CodeGraph
