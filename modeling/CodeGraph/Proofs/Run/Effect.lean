import CodeGraph.Proofs.Files.Walk
import CodeGraph.Proofs.Graph.Written
import CodeGraph.Run.Pipeline

/-! # What a run does to a graph

A run is described by what it reports. `Run.inspect` is what a file gives, from the files alone;
each visit then ends the run or adds one report, and writes the batch of the file exactly if it
reports the file as ingested (`visitFile_cases`). By induction over the walk the same holds of all
visits together (`visitEach_effect`), and so of a run (`run_effect`).

The backend and the surroundings are any that leave the graph alone but for the batches they take:
nothing is assumed of which batches are refused and of when the run is asked to stop. -/

namespace CodeGraph

variable {σ : Type}

namespace Run

/-- What a file gives: its facts and the files that it imports, or why it cannot be ingested. -/
def inspect (config : RunConfig) (t : FileTree) (l : Locator) (place : List String) :
    Except IngestError (FileFacts × List String) :=
  let path := l.relativePath place
  match t.read (FileTree.absolute place) with
  | .error e => .error (.read path e.message)
  | .ok bytes =>
    match (Source.parse config.tolerant path (decode path bytes).value).value with
    | .error e => .error (.parse e)
    | .ok parsed =>
      let facts := (parsed.facts path).value
      let isFile := isFileBelow t l.root
      .ok (facts, (resolveAll isFile path facts.language [] facts.imports).value)

section Visit

variable {config : RunConfig} {backend : Backend σ} {around : Surroundings σ} {l : Locator}
  {place : List String} {r : Running σ}

/-- A file that gives nothing is passed over. -/
theorem value_ingestFile_of_error {e : IngestError}
    (h : inspect config (around.tree r.state) l place = .error e) :
    (ingestFile config backend around l place (l.relativePath place) r).value
      = (.error e, { r with stage := .parsing }) := by
  simp only [inspect] at h
  simp only [ingestFile]
  cases hread : (around.tree r.state).read (FileTree.absolute place) with
  | error problem =>
    simp only [hread] at h ⊢
    cases h
    rfl
  | ok bytes =>
    simp only [hread, Logged.value_bind] at h ⊢
    cases hparse : (Source.parse config.tolerant (l.relativePath place)
      (decode (l.relativePath place) bytes).value).value with
    | error problem =>
      simp only [hparse] at h ⊢
      cases h
      rfl
    | ok parsed => simp only [hparse, reduceCtorEq] at h

/-- The facts of a file are written, or refused. -/
theorem value_ingestFile_of_ok {facts : FileFacts} {resolved : List String}
    (h : inspect config (around.tree r.state) l place = .ok (facts, resolved)) :
    (ingestFile config backend around l place (l.relativePath place) r).value
      = match (backend.apply (Plan.batch facts resolved) r.state).value with
        | (.error e, s) =>
          (.error (.write (l.relativePath place) e), { r with stage := .writing, state := s })
        | (.ok (), s) =>
          (.ok ⟨l.relativePath place, .ingested facts.counts resolved.length⟩,
            { r with stage := .writing, state := s }) := by
  simp only [inspect] at h
  simp only [ingestFile]
  cases hread : (around.tree r.state).read (FileTree.absolute place) with
  | error problem => simp only [hread, reduceCtorEq] at h
  | ok bytes =>
    simp only [hread, Logged.value_bind] at h ⊢
    cases hparse : (Source.parse config.tolerant (l.relativePath place)
      (decode (l.relativePath place) bytes).value).value with
    | error problem => simp only [hparse, reduceCtorEq] at h
    | ok parsed =>
      simp only [hparse] at h
      cases h
      simp only [Logged.value_bind, Backend.value_write]
      cases (backend.apply _ r.state).value with
      | mk answer s => cases answer <;> rfl

/-- A visit that is asked to stop ends the walk before the file is looked at. -/
theorem value_visitFile_of_stop (h : around.stopRequested (around.meanwhile r.state)) :
    (visitFile config backend around l place r).value
      = .ended { r with
          state := around.meanwhile r.state, summary := { r.summary with stopped := true } } := by
  simp only [visitFile, h, if_true]
  rfl

variable (hgo : ¬ around.stopRequested (around.meanwhile r.state))
include hgo

/-- A visit that is not asked to stop ingests the file and records its report. -/
theorem value_visitFile_of_go :
    (visitFile config backend around l place r).value
      = match (ingestFile config backend around l place (l.relativePath place)
          { r with state := around.meanwhile r.state }).value with
        | (.ok report, r) => .going { r with summary := r.summary.record report }
        | (.error e, r) =>
          .going { r with summary := r.summary.record (.ofError (l.relativePath place) e) } := by
  simp only [visitFile, hgo, Bool.false_eq_true, if_false, Logged.value_bind]
  cases (ingestFile config backend around l place (l.relativePath place)
    { r with state := around.meanwhile r.state }).value with
  | mk result r' => cases result <;> rfl

/-- A visit to a file that gives no facts reports why, and leaves the backend alone. -/
theorem value_visitFile_of_error {e : IngestError}
    (h : inspect config (around.tree (around.meanwhile r.state)) l place = .error e) :
    (visitFile config backend around l place r).value
      = .going {
          stage := .parsing
          summary := r.summary.record (.ofError (l.relativePath place) e)
          state := around.meanwhile r.state } := by
  rw [value_visitFile_of_go hgo, value_ingestFile_of_error h]

/-- A visit whose batch is refused reports the refusal. -/
theorem value_visitFile_of_refused {facts : FileFacts} {resolved : List String} {e : GraphError}
    {s : σ} (h : inspect config (around.tree (around.meanwhile r.state)) l place
      = .ok (facts, resolved))
    (happly : (backend.apply (Plan.batch facts resolved) (around.meanwhile r.state)).value
      = (.error e, s)) :
    (visitFile config backend around l place r).value
      = .going {
          stage := .writing
          summary := r.summary.record
            (.ofError (l.relativePath place) (.write (l.relativePath place) e))
          state := s } := by
  rw [value_visitFile_of_go hgo, value_ingestFile_of_ok h, happly]

/-- A visit whose batch is taken reports the numbers of the facts that were written. -/
theorem value_visitFile_of_accepted {facts : FileFacts} {resolved : List String}
    {s : σ} (h : inspect config (around.tree (around.meanwhile r.state)) l place
      = .ok (facts, resolved))
    (happly : (backend.apply (Plan.batch facts resolved) (around.meanwhile r.state)).value
      = (.ok (), s)) :
    (visitFile config backend around l place r).value
      = .going {
          stage := .writing
          summary := r.summary.record
            ⟨l.relativePath place, .ingested facts.counts resolved.length⟩
          state := s } := by
  rw [value_visitFile_of_go hgo, value_ingestFile_of_ok h, happly]

end Visit

end Run

/-! ## Backends and surroundings that leave the graph alone -/

/-- **A backend that holds a graph** somewhere in its state, and makes all upserts of a batch or, if
it refuses the batch, none. -/
structure Backend.Holds (backend : Backend σ) (store : σ → Store) : Prop where
  verify : ∀ s, store (backend.verify s).value.2 = store s
  accepted : ∀ b s s', (backend.apply b s).value = (.ok (), s') → store s' = (store s).apply b
  refused : ∀ b s e s', (backend.apply b s).value = (.error e, s') → store s' = store s
  counts : ∀ s, store (backend.counts s).value.2 = store s

/-- **The backend in memory holds its own store**, and takes every batch as a whole. -/
theorem Backend.holds_memory : Backend.memory.Holds id where
  verify _ := rfl
  accepted _ _ _ h := (congrArg Prod.snd h).symm
  refused _ _ _ _ h := by cases h
  counts _ := rfl

/-- **Surroundings in which nothing changes** but the moment at which a run is asked to stop. -/
structure Surroundings.Still (around : Surroundings σ) (store : σ → Store) (t : FileTree)
    (home : Option String) : Prop where
  tree : ∀ s, around.tree s = t
  home : around.home = home
  meanwhile : ∀ s, store (around.meanwhile s) = store s

/-- Recording a report puts it after the others. -/
@[simp] theorem RunSummary.reports_record (s : RunSummary) (r : FileReport) :
    (s.record r).reports = s.reports ++ [r] := by
  rw [record]
  split <;> rfl

/-- Recording a report does not stop a run. -/
@[simp] theorem RunSummary.stopped_record (s : RunSummary) (r : FileReport) :
    (s.record r).stopped = s.stopped := by
  rw [record]
  split <;> rfl

namespace Run

/-- **What a run leaves after its visits**: the summary of the visits, with the totals that are read
then, if they can be read. -/
theorem value_ingest_eq (config : RunConfig) (backend : Backend σ) (around : Surroundings σ)
    (l : Locator) (elapsed : Nat) (s : σ) :
    let r := (l.visitAll (fun r : Running σ => around.tree r.state)
      (visitFile config backend around l) { stage := .listing, state := s }).value.state
    (ingest config backend around l elapsed s).value
      = (.ok { r.summary with graph := (backend.counts r.state).value.1.toOption, elapsed }, .done,
        (backend.counts r.state).value.2) := by
  intro r
  have hvisits : (l.visitAll (fun r : Running σ => around.tree r.state)
      (visitFile config backend around l) { stage := .listing, state := s }).value.state = r := rfl
  simp only [ingest, Logged.value_bind, hvisits]
  cases (backend.counts r.state).value with
  | mk counts s' => cases counts <;> rfl

section Visits

variable (config : RunConfig) (t : FileTree) (l : Locator)

/-- What can be reported of a file: why it gives nothing, or that its facts were written, or why
they were refused. -/
def Describes (place : List String) (report : FileReport) : Prop :=
  match inspect config t l place with
  | .error e => report = .ofError (l.relativePath place) e
  | .ok (facts, resolved) =>
    report = ⟨l.relativePath place, .ingested facts.counts resolved.length⟩ ∨
      ∃ e, report = .ofError (l.relativePath place) (.write (l.relativePath place) e)

/-- The batch of a file, if the file gives one. -/
def planned? (place : List String) : Option Batch :=
  (inspect config t l place).toOption.map fun f => Plan.batch f.1 f.2

/-- The calls for the files of which it is reported that they were ingested. -/
def written (places : List (List String)) (reports : List FileReport) : List Store.Call :=
  (places.zip reports).filterMap fun p =>
    if p.2.isFailed then none else (planned? config t l p.1).map .apply

/-- What is written for files is written for the first of them and then for the rest. -/
theorem written_cons (place : List String) (places : List (List String)) (report : FileReport)
    (reports : List FileReport) :
    written config t l (place :: places) (report :: reports)
      = written config t l [place] [report] ++ written config t l places reports := by
  rw [written, written, written, ← List.filterMap_append]
  rfl

/-- What is written for one file: nothing if it failed, and else the batch that was planned for
it. -/
theorem written_singleton (place : List String) (report : FileReport) :
    written config t l [place] [report]
      = if report.isFailed then [] else (planned? config t l place).toList.map .apply := by
  cases hreport : report.isFailed <;> cases hplan : planned? config t l place <;>
    simp [written, hreport, hplan]

variable {t} {backend : Backend σ} {around : Surroundings σ} {store : σ → Store}
  {home : Option String}

/-- **One visit**: the run is asked to stop and ends, or it goes on with one more report, and with
the batch of the file written if the report says so. -/
theorem visitFile_cases (hb : backend.Holds store) (ha : around.Still store t home)
    (place : List String) (r : Running σ) :
    (∃ r', (visitFile config backend around l place r).value = .ended r' ∧
      r'.summary = { r.summary with stopped := true } ∧ store r'.state = store r.state) ∨
    ∃ r' report, (visitFile config backend around l place r).value = .going r' ∧
      Describes config t l place report ∧ r'.summary = r.summary.record report ∧
      store r'.state = (store r.state).performAll (written config t l [place] [report]) := by
  have hm := ha.meanwhile r.state
  by_cases hstop : around.stopRequested (around.meanwhile r.state)
  · exact .inl ⟨_, value_visitFile_of_stop hstop, rfl, hm⟩
  · right
    -- the files are the same as at the start, so what the file gives decides the rest
    have htree := ha.tree (around.meanwhile r.state)
    cases hi : inspect config t l place with
    | error e =>
      refine ⟨_, .ofError (l.relativePath place) e,
        value_visitFile_of_error hstop (htree ▸ hi), ?_, rfl, hm⟩
      rw [Describes, hi]
    | ok f =>
      obtain ⟨facts, resolved⟩ := f
      cases happly :
        (backend.apply (Plan.batch facts resolved) (around.meanwhile r.state)).value with
      | mk answer s =>
        cases answer with
        | error e =>
          refine ⟨_, .ofError (l.relativePath place) (.write (l.relativePath place) e),
            value_visitFile_of_refused hstop (htree ▸ hi) happly, ?_, rfl, ?_⟩
          · rw [Describes, hi]
            exact .inr ⟨e, rfl⟩
          · exact (hb.refused _ _ _ _ happly).trans hm
        | ok u =>
          refine ⟨_, ⟨l.relativePath place, .ingested facts.counts resolved.length⟩,
            value_visitFile_of_accepted hstop (htree ▸ hi) happly, ?_, rfl, ?_⟩
          · rw [Describes, hi]
            exact .inl rfl
          · have hplan : planned? config t l place = some (Plan.batch facts resolved) := by
              rw [planned?, hi]
              rfl
            rw [hb.accepted _ _ _ happly, hm, written_singleton, hplan]
            rfl

/-- **All visits of a walk**: they report a first part of the places, one report each, and write
what they report as ingested; what is left over was given up because the run was asked to stop. -/
theorem visitEach_effect (hb : backend.Holds store) (ha : around.Still store t home)
    (places : List (List String)) (r : Running σ) :
    let r' := (Locator.visitEach (visitFile config backend around l) places r).state
    ∃ visited rest reports, places = visited ++ rest ∧
      List.Forall₂ (Describes config t l) visited reports ∧
      r'.summary.reports = r.summary.reports ++ reports ∧
      (r'.summary.stopped = false → rest = []) ∧
      store r'.state = (store r.state).performAll (written config t l visited reports) := by
  induction places generalizing r with
  | nil => exact ⟨[], [], [], rfl, .nil, (List.append_nil _).symm, fun _ => rfl, rfl⟩
  | cons place places ih =>
    rw [Locator.visitEach]
    rcases visitFile_cases config l hb ha place r with
      ⟨r', hvalue, hsummary, hstore⟩ | ⟨r', report, hvalue, hreport, hsummary, hstore⟩
    · -- asked to stop: nothing is visited, and the summary says why
      refine ⟨[], place :: places, [], rfl, .nil, ?_, ?_, ?_⟩
      · rw [hvalue, Locator.Progress.state, hsummary, List.append_nil]
      · rw [hvalue, Locator.Progress.state, hsummary]
        intro hstopped
        cases hstopped
      · rw [hvalue]
        exact hstore
    · obtain ⟨visited, rest, reports, hplaces, hreports, hall, hrest, hrun⟩ := ih r'
      refine ⟨place :: visited, rest, report :: reports, ?_, .cons hreport hreports, ?_, ?_, ?_⟩
      · rw [hplaces, List.cons_append]
      · rw [hvalue, hall, hsummary, RunSummary.reports_record, List.append_assoc]
        rfl
      · rw [hvalue]
        exact hrest
      · rw [hvalue, hrun, hstore, ← Store.performAll_append, ← written_cons]

/-- The rest of a run after the visits changes neither the graph nor what was reported. -/
theorem value_ingest (hb : backend.Holds store) (ha : around.Still store t home) (elapsed : Nat)
    (s : σ) :
    let r := (Locator.visitEach (visitFile config backend around l) (l.files t).value
      { stage := .listing, state := s }).state
    ∃ graph s', (ingest config backend around l elapsed s).value
      = (.ok { r.summary with graph, elapsed }, .done, s') ∧ store s' = store r.state := by
  intro r
  have htree : ∀ r : Running σ, around.tree r.state = t := fun r => ha.tree r.state
  rw [value_ingest_eq, Locator.value_visitAll htree, ← Locator.value_files]
  exact ⟨_, _, rfl, hb.counts r.state⟩

/-- The locator of a run, if the repository is there and its place can be told. -/
def locator? (config : RunConfig) (t : FileTree) (home : Option String) : Option Locator :=
  (Locator.ofPath t config.root config.extensions config.ignoring home).toOption

/-- A run has a locator exactly if `Locator.ofPath` gives it. -/
theorem locator?_eq_some_iff {config : RunConfig} {t : FileTree} {home : Option String}
    {l : Locator} : locator? config t home = some l ↔
      Locator.ofPath t config.root config.extensions config.ignoring home = .ok l := by
  rw [locator?]
  cases Locator.ofPath t config.root config.extensions config.ignoring home <;>
    simp [Except.toOption]

/-- A run has no locator exactly if `Locator.ofPath` says why. -/
theorem locator?_eq_none_iff {config : RunConfig} {t : FileTree} {home : Option String} :
    locator? config t home = none ↔
      ∃ e, Locator.ofPath t config.root config.extensions config.ignoring home = .error e := by
  rw [locator?]
  cases Locator.ofPath t config.root config.extensions config.ignoring home <;>
    simp [Except.toOption]

/-- **A run that begins**, having found its root and reached its backend, is one walk of
`ingest`. -/
theorem value_run {config : RunConfig} {backend : Backend σ} {around : Surroundings σ} {l : Locator}
    {s s' : σ} (hl : locator? config (around.tree s) around.home = some l)
    (hv : (backend.verify s).value = (.ok (), s')) (elapsed : Nat) :
    (run config backend around elapsed s).value
      = (ingest config backend around l elapsed s').value := by
  simp only [run, locator?_eq_some_iff.1 hl, Logged.value_bind, hv]

/-- A run that does not fail has found its repository and reached the backend. -/
theorem exists_ingest_of_run {config : RunConfig} {backend : Backend σ} {around : Surroundings σ}
    {elapsed : Nat} {s : σ} {summary : RunSummary}
    (h : (run config backend around elapsed s).value.1 = .ok summary) :
    ∃ l s', locator? config (around.tree s) around.home = some l ∧
      (backend.verify s).value = (.ok (), s') ∧
      (run config backend around elapsed s).value
        = (ingest config backend around l elapsed s').value := by
  cases hl : locator? config (around.tree s) around.home with
  | none =>
    obtain ⟨e, he⟩ := locator?_eq_none_iff.1 hl
    simp only [run, he] at h
    cases h
  | some l =>
    cases hv : (backend.verify s).value with
    | mk answer s' =>
      cases answer with
      | ok u => exact ⟨l, s', rfl, rfl, value_run hl hv elapsed⟩
      | error e =>
        simp only [run, locator?_eq_some_iff.1 hl, Logged.value_bind, hv] at h
        cases h

/-- A run that fails as a whole, for want of a repository or of a connection, leaves the graph as it
was. -/
def Fails (config : RunConfig) (t : FileTree) (home : Option String)
    (result : Except RunError RunSummary) (a b : Store) : Prop :=
  ∃ e, result = .error e ∧ b = a ∧ ∀ problem, e = .root problem → locator? config t home = none

/-- A run that comes to its end has reported a first part of the files, all of them unless it was
asked to stop, and has written what it reports as ingested. -/
def Ends (config : RunConfig) (t : FileTree) (home : Option String)
    (result : Except RunError RunSummary) (a b : Store) : Prop :=
  ∃ l summary visited rest, locator? config t home = some l ∧ result = .ok summary ∧
    (l.files t).value = visited ++ rest ∧ (summary.stopped = false → rest = []) ∧
    List.Forall₂ (Describes config t l) visited summary.reports ∧
    b = a.performAll (written config t l visited summary.reports)

/-- **What a run does to the graph.** -/
theorem run_effect (hb : backend.Holds store) (ha : around.Still store t home) (elapsed : Nat)
    (s : σ) :
    let out := (run config backend around elapsed s).value
    Fails config t home out.1 (store s) (store out.2.2) ∨
      Ends config t home out.1 (store s) (store out.2.2) := by
  have hverify := hb.verify s
  simp only [run, ha.tree, ha.home]
  cases hl : Locator.ofPath t config.root config.extensions config.ignoring home with
  | error e => exact .inl ⟨_, rfl, rfl, fun _ _ => locator?_eq_none_iff.2 ⟨e, hl⟩⟩
  | ok l =>
    simp only [Logged.value_bind]
    cases hv : (backend.verify s).value with
    | mk answer s' =>
      rw [hv] at hverify
      cases answer with
      | error e => exact .inl ⟨_, rfl, hverify, nofun⟩
      | ok u =>
        right
        obtain ⟨graph, s'', hvalue, hstore⟩ := value_ingest config l hb ha elapsed s'
        obtain ⟨visited, rest, reports, hfiles, hreports, hall, hrest, hrun⟩ :=
          visitEach_effect config l hb ha (l.files t).value { stage := .listing, state := s' }
        rw [List.nil_append] at hall
        refine ⟨l, _, visited, rest, locator?_eq_some_iff.2 hl, congrArg Prod.fst hvalue, hfiles,
          hrest, ?_, ?_⟩
        · rw [hall]
          exact hreports
        · rw [hvalue, hall, ← hverify]
          exact hstore.trans hrun

end Visits

end Run

end CodeGraph
