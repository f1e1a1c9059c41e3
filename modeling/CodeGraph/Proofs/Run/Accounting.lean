import CodeGraph.Proofs.Run.Recovery
import Mathlib

/-! # Accounts of a run

What a summary says of a run, compared with what happened. What happened is taken down by an
observer: `Backend.observed` and `Surroundings.observed` answer as before and keep a record of each
question and its answer beside the state. A visit is the same with the record and without it
(`Run.visitFile_observed`), and so is a run, whose record is therefore one of the run itself.

Each visit adds one report and one question whether to stop, and a batch is taken exactly if the
report says that the file was ingested. So each visit keeps the account (`Run.Accounts`), and by
induction over the walk all visits do (`Run.visitEach_accounts`).

Nothing is assumed of the backend and of when the run is asked to stop. -/

namespace CodeGraph

variable {σ τ : Type}

/-! ## Observed runs -/

/-- A question of a run and the answer to it. -/
inductive RunEvent where
  /-- Whether to stop, before a file is visited. -/
  | asked (stop : Bool)
  /-- To take a batch. -/
  | applied (batch : Batch) (answer : Except GraphError Unit)
  /-- The totals. -/
  | counted (answer : Except GraphError GraphCounts)

namespace RunEvent

/-- Whether to stop, if that was the question. -/
def flag? : RunEvent → Option Bool
  | asked stop => some stop
  | _ => none

/-- Whether a batch was taken. -/
def isAccepted : RunEvent → Bool
  | applied _ (.ok _) => true
  | _ => false

/-- The answers to the questions whether to stop, in order. -/
def flags (events : List RunEvent) : List Bool := events.filterMap flag?

/-- Number of batches that were taken. -/
def accepted (events : List RunEvent) : Nat := events.countP isAccepted

@[simp] theorem flags_append (events events' : List RunEvent) :
    flags (events ++ events') = flags events ++ flags events' :=
  List.filterMap_append

@[simp] theorem accepted_append (events events' : List RunEvent) :
    accepted (events ++ events') = accepted events + accepted events' :=
  List.countP_append

@[simp] theorem flags_asked (stop : Bool) (events : List RunEvent) :
    flags (asked stop :: events) = stop :: flags events :=
  rfl

@[simp] theorem accepted_asked (stop : Bool) (events : List RunEvent) :
    accepted (asked stop :: events) = accepted events :=
  rfl

end RunEvent

/-- The same backend, with a record of what it was asked. -/
def Backend.observed (backend : Backend σ) : Backend (List RunEvent × σ) where
  name := backend.name
  verify s := (fun a => (a.1, s.1, a.2)) <$> backend.verify s.2
  apply b s := (fun a => (a.1, s.1 ++ [.applied b a.1], a.2)) <$> backend.apply b s.2
  counts s := (fun a => (a.1, s.1 ++ [.counted a.1], a.2)) <$> backend.counts s.2

/-- The same surroundings, with a record of whether the run was asked to stop. -/
def Surroundings.observed (around : Surroundings σ) : Surroundings (List RunEvent × σ) where
  tree s := around.tree s.2
  stopRequested s := around.stopRequested s.2
  meanwhile s :=
    (s.1 ++ [.asked (around.stopRequested (around.meanwhile s.2))], around.meanwhile s.2)
  home := around.home

/-- A run on its way, without its record. -/
def Running.unobserved (r : Running (List RunEvent × σ)) : Running σ :=
  { stage := r.stage, summary := r.summary, state := r.state.2 }

/-- Changes the state. -/
def Locator.Progress.map (f : σ → τ) : Locator.Progress σ → Locator.Progress τ
  | going s => going (f s)
  | ended s => ended (f s)

/-- Mapping a `Progress` maps its state, whether the walk goes on or not. -/
theorem Locator.Progress.state_map (f : σ → τ) (p : Locator.Progress σ) :
    (p.map f).state = f p.state := by
  cases p <;> rfl

namespace Run

section Visits

variable (config : RunConfig) (backend : Backend σ) (around : Surroundings σ) (l : Locator)

/-- **One visit**: the run is told to stop and ends, or it goes on with one report of the file. It
is on record what the run was told and, exactly if the report says so, that a batch was taken.
Without the record the visit is the same. -/
theorem visitFile_observed (place : List String) (r : Running (List RunEvent × σ)) :
    let p := (visitFile config backend.observed around.observed l place r).value
    (visitFile config backend around l place r.unobserved).value = p.map Running.unobserved ∧
    ((∃ r', p = .ended r' ∧ r'.summary = { r.summary with stopped := true } ∧
      r'.state.1 = r.state.1 ++ [.asked true]) ∨
    ∃ r' report events, p = .going r' ∧ r'.summary = r.summary.record report ∧
      report.path = l.relativePath place ∧ r'.state.1 = r.state.1 ++ .asked false :: events ∧
      RunEvent.flags events = [] ∧
      RunEvent.accepted events = if report.isFailed then 0 else 1) := by
  by_cases hstop : around.stopRequested (around.meanwhile r.state.2)
  · rw [value_visitFile_of_stop (r := r.unobserved) hstop, value_visitFile_of_stop (r := r) hstop]
    refine ⟨rfl, .inl ⟨_, rfl, rfl, ?_⟩⟩
    simp only [Surroundings.observed, hstop]
  · have hmeanwhile : around.observed.meanwhile r.state
        = (r.state.1 ++ [.asked false], around.meanwhile r.state.2) := by
      simp only [Surroundings.observed, hstop]
    cases hi : inspect config (around.tree (around.meanwhile r.state.2)) l place with
    | error e =>
      rw [value_visitFile_of_error (r := r.unobserved) hstop hi,
        value_visitFile_of_error (r := r) hstop hi, hmeanwhile]
      exact ⟨rfl, .inr ⟨_, .ofError (l.relativePath place) e, [], rfl, rfl, rfl, rfl, rfl, rfl⟩⟩
    | ok f =>
      obtain ⟨facts, resolved⟩ := f
      cases happly :
        (backend.apply (Plan.batch facts resolved) (around.meanwhile r.state.2)).value with
      | mk answer s =>
        -- the observer passes the answer on and only adds it to the record
        have hobserved : (backend.observed.apply (Plan.batch facts resolved)
            (around.observed.meanwhile r.state)).value
            = (answer, r.state.1 ++ .asked false :: [.applied (Plan.batch facts resolved) answer],
              s) := by
          rw [hmeanwhile]
          simp only [Backend.observed, Logged.value_map, happly, List.append_assoc,
            List.singleton_append]
        cases answer with
        | error e =>
          rw [value_visitFile_of_refused (r := r.unobserved) hstop hi happly,
            value_visitFile_of_refused (r := r) hstop hi hobserved]
          exact ⟨rfl, .inr ⟨_, .ofError (l.relativePath place) (.write (l.relativePath place) e), _,
            rfl, rfl, rfl, rfl, rfl, rfl⟩⟩
        | ok u =>
          rw [value_visitFile_of_accepted (r := r.unobserved) hstop hi happly,
            value_visitFile_of_accepted (r := r) hstop hi hobserved]
          exact ⟨rfl, .inr ⟨_, ⟨l.relativePath place, .ingested facts.counts resolved.length⟩, _,
            rfl, rfl, rfl, rfl, rfl, rfl⟩⟩

/-- All visits of a walk are the same with the record and without it. -/
theorem visitEach_unobserved (places : List (List String)) (r : Running (List RunEvent × σ)) :
    Locator.visitEach (visitFile config backend around l) places r.unobserved
      = (Locator.visitEach (visitFile config backend.observed around.observed l) places r).map
        Running.unobserved := by
  induction places generalizing r with
  | nil => rfl
  | cons place places ih =>
    rw [Locator.visitEach, Locator.visitEach,
      (visitFile_observed config backend around l place r).1]
    cases (visitFile config backend.observed around.observed l place r).value with
    | going r' => exact ih r'
    | ended r' => rfl

end Visits

end Run

/-! ## Accounts -/

/-- Numbers of facts are added one by one. -/
theorem FactCounts.foldl_add (counts : List FactCounts) (start : FactCounts) :
    counts.foldl FactCounts.add start =
      { functions := start.functions + (counts.map (·.functions)).sum,
        classes := start.classes + (counts.map (·.classes)).sum,
        imports := start.imports + (counts.map (·.imports)).sum,
        calls := start.calls + (counts.map (·.calls)).sum } := by
  induction counts generalizing start with
  | nil => rfl
  | cons c counts ih =>
    rw [List.foldl_cons, ih]
    simp only [FactCounts.add, List.map_cons, List.sum_cons, Nat.add_assoc]

namespace RunSummary

variable (s : RunSummary) (r : FileReport)

/-- Recording a report counts the file as processed, unless it failed. -/
theorem processed_record :
    (s.record r).processed = s.processed + if r.isFailed then 0 else 1 := by
  rw [record]
  split <;> rfl

/-- Recording a report counts the file as failed, if it did. -/
theorem failed_record : (s.record r).failed = s.failed + if r.isFailed then 1 else 0 := by
  rw [record]
  split <;> rfl

/-- Recording a report keeps the failure, if it is one. -/
theorem length_failures_record :
    (s.record r).failures.length = s.failures.length + if r.isFailed then 1 else 0 := by
  rw [failures, reports_record, List.filter_append, List.length_append, List.filter_singleton]
  cases r.isFailed <;> rfl

/-- The facts of all ingested files together are the sums of their numbers. -/
theorem factTotals_eq :
    s.factTotals =
      let counts := s.reports.filterMap FileReport.counts?
      { functions := (counts.map (·.functions)).sum, classes := (counts.map (·.classes)).sum,
        imports := (counts.map (·.imports)).sum, calls := (counts.map (·.calls)).sum } := by
  simp only [factTotals, FactCounts.foldl_add, Nat.zero_add]

end RunSummary

namespace Run

/-- **The account of a run** that has gone through some files: what its summary says, next to the
record of what happened. -/
structure Accounts (paths : List String) (summary : RunSummary) (events : List RunEvent) :
    Prop where
  /-- One report of each file, in order. -/
  reports : summary.reports.map (·.path) = paths
  /-- Each file was visited after the run was told to go on, and the run was told to stop if it says
  that it was. -/
  flags : RunEvent.flags events
    = List.replicate paths.length false ++ if summary.stopped then [true] else []
  total : summary.processed + summary.failed = summary.reports.length
  failed : summary.failed = summary.failures.length
  processed : summary.processed = RunEvent.accepted events

namespace Accounts

variable {paths : List String} {summary : RunSummary} {events events' : List RunEvent}

/-- Nothing has happened, and nothing is accounted for. -/
theorem nil : Accounts [] {} [] := ⟨rfl, rfl, rfl, rfl, rfl⟩

/-- A stop is accounted for. -/
theorem stop (h : Accounts paths summary events) (hgoing : summary.stopped = false) :
    Accounts paths { summary with stopped := true } (events ++ [.asked true]) where
  reports := h.reports
  flags := by
    rw [RunEvent.flags_append, h.flags, hgoing]
    exact congrArg (· ++ [true]) (List.append_nil _)
  total := h.total
  failed := h.failed
  processed := h.processed.trans (RunEvent.accepted_append events [.asked true]).symm

/-- A visit is accounted for by its report. -/
theorem record (h : Accounts paths summary events) (hgoing : summary.stopped = false)
    {report : FileReport} (hflags : RunEvent.flags events' = [])
    (haccepted : RunEvent.accepted events' = if report.isFailed then 0 else 1) :
    Accounts (paths ++ [report.path]) (summary.record report)
      (events ++ .asked false :: events') where
  reports := by
    rw [RunSummary.reports_record, List.map_append, h.reports]
    rfl
  flags := by
    rw [RunEvent.flags_append, h.flags, RunSummary.stopped_record, hgoing, RunEvent.flags_asked,
      hflags]
    simp [List.replicate_succ']
  total := by
    have htotal := h.total
    rw [RunSummary.reports_record, RunSummary.processed_record, RunSummary.failed_record,
      List.length_append, ← htotal]
    split <;> simp <;> omega
  failed := by rw [RunSummary.failed_record, RunSummary.length_failures_record, h.failed]
  processed := by
    rw [RunSummary.processed_record, RunEvent.accepted_append, RunEvent.accepted_asked, haccepted,
      h.processed]

end Accounts

variable (config : RunConfig) (backend : Backend σ) (around : Surroundings σ) (l : Locator)

/-- **All visits of a walk** keep the account: they report a first part of the files, which is not
all of them exactly if the run says that it was stopped. -/
theorem visitEach_accounts (places : List (List String)) {paths : List String}
    {r : Running (List RunEvent × σ)} (h : Accounts paths r.summary r.state.1)
    (hgoing : r.summary.stopped = false) :
    let r' := (Locator.visitEach (visitFile config backend.observed around.observed l) places
      r).state
    ∃ visited rest, places = visited ++ rest ∧
      Accounts (paths ++ visited.map l.relativePath) r'.summary r'.state.1 ∧
      (r'.summary.stopped ↔ rest ≠ []) := by
  induction places generalizing paths r with
  | nil =>
    refine ⟨[], [], rfl, ?_, ?_⟩
    · rw [List.map_nil, List.append_nil]
      exact h
    · simp [Locator.visitEach, Locator.Progress.state, hgoing]
  | cons place places ih =>
    rw [Locator.visitEach]
    rcases (visitFile_observed config backend around l place r).2 with
      ⟨r', hvalue, hsummary, hstate⟩ |
      ⟨r', report, events, hvalue, hsummary, hpath, hstate, hflags, haccepted⟩
    · -- told to stop: the file is the first one that is not reported
      refine ⟨[], place :: places, rfl, ?_, ?_⟩
      · rw [hvalue, Locator.Progress.state, hsummary, hstate, List.map_nil, List.append_nil]
        exact h.stop hgoing
      · simp [hvalue, Locator.Progress.state, hsummary]
    · have hrecord : Accounts (paths ++ [report.path]) r'.summary r'.state.1 := by
        rw [hsummary, hstate]
        exact h.record hgoing hflags haccepted
      have hgoing' : r'.summary.stopped = false := by
        rw [hsummary, RunSummary.stopped_record, hgoing]
      obtain ⟨visited, rest, hplaces, haccounts, hstopped⟩ := ih hrecord hgoing'
      refine ⟨place :: visited, rest, ?_, ?_, ?_⟩
      · rw [hplaces, List.cons_append]
      · rw [hvalue, List.map_cons, ← hpath, List.append_cons]
        exact haccounts
      · rw [hvalue]
        exact hstopped

variable {config backend around}

/-- An observed run comes to the same end, with the record of its visits and of the totals. -/
theorem exists_observed_run {t : FileTree} (htree : ∀ s, around.tree s = t) {elapsed : Nat} {s : σ}
    {summary : RunSummary} (hok : (run config backend around elapsed s).value.1 = .ok summary) :
    ∃ l s', locator? config t around.home = some l ∧
      let r := (Locator.visitEach (visitFile config backend.observed around.observed l)
        (l.files t).value { stage := .listing, state := ([], s') }).state
      let answer := (backend.counts r.state.2).value.1
      summary = { r.summary with graph := answer.toOption, elapsed } ∧
      (run config backend.observed around.observed elapsed ([], s)).value
        = (.ok summary, .done, r.state.1 ++ [.counted answer],
          (run config backend around elapsed s).value.2.2) := by
  obtain ⟨l, s', hl, hverify, hrun⟩ := exists_ingest_of_run hok
  have hverify' : (backend.observed.verify ([], s)).value = (.ok (), [], s') := by
    simp only [Backend.observed, Logged.value_map, hverify]
  have hl' : locator? config (around.observed.tree ([], s)) around.observed.home = some l := hl
  have hobserved := value_run hl' hverify' elapsed
  have htree' : ∀ r : Running (List RunEvent × σ), around.observed.tree r.state = t :=
    fun r => htree r.state.2
  let r := (Locator.visitEach (visitFile config backend.observed around.observed l)
    (l.files t).value { stage := .listing, state := ([], s') }).state
  -- the observer only watches: forgetting what it saw gives the run without it
  have hvisits : (l.visitAll (fun r : Running σ => around.tree r.state)
      (visitFile config backend around l) { stage := .listing, state := s' }).value.state
      = r.unobserved := by
    rw [Locator.value_visitAll fun r : Running σ => htree r.state, ← Locator.value_files,
      ← Locator.Progress.state_map Running.unobserved, ← visitEach_unobserved]
    rfl
  rw [value_ingest_eq, hvisits] at hrun
  rw [value_ingest_eq, Locator.value_visitAll htree', ← Locator.value_files] at hobserved
  rw [hrun] at hok
  cases hok
  refine ⟨l, s', htree s ▸ hl, rfl, ?_⟩
  rw [hobserved, hrun]
  simp only [Backend.observed, Logged.value_map]
  rfl

variable (config backend around)

/-- **What a run says of itself is what happened.** Let a run come to its end, over files that stay
as they are. Observed, it comes to the same end, and there is a record of it. The run reports a
first part of the files, one report each and in the order of the walk. It says that it was stopped
exactly if that is not all of them; it was told to go on before each file that it reports, and to
stop before the first one that it does not. Its numbers are those of its reports, and the number of
files that it ingested is the number of batches that were taken. The totals are read at the end, and
are missing exactly if they could not be read. -/
theorem summary_accounts_for_run {t : FileTree} (htree : ∀ s, around.tree s = t) {elapsed : Nat}
    {s : σ} {summary : RunSummary}
    (hok : (run config backend around elapsed s).value.1 = .ok summary) :
    ∃ l visited rest events answer, locator? config t around.home = some l ∧
      (run config backend.observed around.observed elapsed ([], s)).value
        = (.ok summary, .done, events ++ [.counted answer],
          (run config backend around elapsed s).value.2.2) ∧
      (l.files t).value = visited ++ rest ∧
      Accounts (visited.map l.relativePath) summary events ∧
      (summary.stopped ↔ rest ≠ []) ∧
      summary.factTotals = (
        let counts := summary.reports.filterMap FileReport.counts?
        { functions := (counts.map (·.functions)).sum, classes := (counts.map (·.classes)).sum,
          imports := (counts.map (·.imports)).sum, calls := (counts.map (·.calls)).sum }) ∧
      summary.graph = answer.toOption ∧ (summary.graph = none ↔ ∃ e, answer = .error e) := by
  obtain ⟨l, s', hl, hsummary, hobserved⟩ := exists_observed_run htree hok
  obtain ⟨visited, rest, hplaces, haccounts, hstopped⟩ :=
    visitEach_accounts config backend around l (l.files t).value
      (r := { stage := .listing, state := ([], s') }) Accounts.nil rfl
  have hmissing : ∀ answer : Except GraphError GraphCounts,
      answer.toOption = none ↔ ∃ e, answer = .error e := by
    intro answer
    cases answer <;> simp [Except.toOption]
  subst hsummary
  exact ⟨l, visited, rest, _, _, hl, hobserved, hplaces,
    ⟨haccounts.reports, haccounts.flags, haccounts.total, haccounts.failed, haccounts.processed⟩,
    hstopped, RunSummary.factTotals_eq _, rfl, hmissing _⟩

/-- Two files, of which the first is refused and the second is not reached. -/
theorem summary_accounts_for_run_refused_and_stopped :
    let config : RunConfig := { root := "/repo", extensions := ["py"], ignoring := false }
    let files : Entry := .dir [("a.py", .file "def f(): g()\n".toUTF8), ("b.py", .file .empty)]
    let t : FileTree := { root := .dir [("repo", files)] }
    let backend := Backend.refusing (· == 1)
    let around := Surroundings.stopping t none 1
    ∃ summary events answer s',
      (run config backend.observed around.observed 0 ([], 0, .empty)).value
        = (.ok summary, .done, events ++ [.counted answer], s') ∧
      summary.reports.map (·.path) = ["a.py"] ∧ summary.stopped ∧
      RunEvent.flags events = [false, true] ∧ RunEvent.accepted events = 0 ∧
      summary.processed = 0 ∧ summary.failed = 1 ∧ summary.factTotals = {} := by
  intro config files t backend around
  let l : Locator := { root := ["repo"], extensions := ["py"], ignoring := false }
  have hl : locator? config t none = some l := by cbv
  have hfiles : (l.files t).value = [["repo", "a.py"], ["repo", "b.py"]] := by
    rw [Locator.value_files]
    cbv
  obtain ⟨summary, hok, hreports, hstopped⟩ : ∃ summary,
      (run config backend around 0 (0, .empty)).value.1 = .ok summary ∧
        summary.reports = reportsFrom config t l (· == 1) 1 ((l.files t).value.take 1) ∧
        (summary.stopped ↔ 1 < (l.files t).value.length) :=
    run_interrupted hl 0 .empty
  obtain ⟨l', visited, rest, events, answer, hl', hobserved, hwalk, haccounts, -, htotals, -⟩ :=
    summary_accounts_for_run config backend around (fun _ => rfl) hok
  have hpaths : summary.reports.map (·.path) = ["a.py"] := by
    rw [hreports, map_path_reportsFrom, hfiles]
    decide +kernel
  have hstop : summary.stopped := hstopped.2 (by rw [hfiles]; decide)
  have hfailed : summary.failures.length = 1 ∧
      summary.reports.filterMap FileReport.counts? = [] := by
    rw [RunSummary.failures, hreports, hfiles]
    change ([reportOf config t l true ["repo", "a.py"]].filter _).length = 1 ∧
      [reportOf config t l true ["repo", "a.py"]].filterMap _ = []
    rw [reportOf]
    split <;> exact ⟨rfl, rfl⟩
  have htotal := haccounts.total
  rw [← List.length_map (·.path), hpaths, haccounts.failed, hfailed.1] at htotal
  have hprocessed : summary.processed = 0 := Nat.add_right_cancel htotal
  refine ⟨summary, events, answer, _, hobserved, hpaths, hstop, ?_,
    haccounts.processed.symm.trans hprocessed, hprocessed, haccounts.failed.trans hfailed.1, ?_⟩
  · rw [haccounts.flags, ← haccounts.reports, hpaths, hstop]
    rfl
  · rw [htotals, hfailed.2]
    rfl

end Run

end CodeGraph
