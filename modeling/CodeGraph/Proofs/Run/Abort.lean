import CodeGraph.Proofs.Files.Places
import CodeGraph.Proofs.Run.Accounting

/-! # Runs that are given up

A run is given up before its first file or not at all. There are three reasons to give it up: there
is no directory at the root, there is one whose place cannot be told, or the backend cannot be
reached (`Occasion.Prevents`). In each case it is known where the run ends
(`Run.value_run_of_no_directory`, `Run.value_run_of_unnamed`, `Run.value_run_of_unreachable`), and
in all others it comes to its end (`Run.value_run_of_reached`).

A pipeline can run any number of times, on other files and another backend each time. All that it
keeps is the stage in which a run has left it, and no run looks at the stage before it. -/

namespace CodeGraph

/-! ## Ends of a run -/

namespace Run

variable {σ : Type} {config : RunConfig} {backend : Backend σ} {around : Surroundings σ} {s s' : σ}
  {place : List String}

/-- A run is given up before the backend is asked for anything if there is no directory at the
root. -/
theorem value_run_of_no_directory (h : (around.tree s).isDir config.root = false) (elapsed : Nat) :
    (run config backend around elapsed s).value
      = (.error (.root (.notFound config.root)), .aborted, s) := by
  rw [run, Locator.ofPath, h]
  rfl

/-- A run is given up before the backend is asked for anything if there is a directory at the root
but `FileTree.canonicalize` fails. -/
theorem value_run_of_unnamed (h : (around.tree s).isDir config.root) {e : FileError}
    (hplace : (around.tree s).canonicalize config.root = .error e) (elapsed : Nat) :
    (run config backend around elapsed s).value = (.error (.root (.unnamed e)), .aborted, s) := by
  rw [run, Locator.ofPath, h, hplace]
  rfl

/-- A run has a locator if there is a directory at the root and its place can be told. -/
theorem exists_locator (h : (around.tree s).isDir config.root)
    (hplace : (around.tree s).canonicalize config.root = .ok place) :
    ∃ l, locator? config (around.tree s) around.home = some l := by
  let l : Locator :=
    ⟨place, config.extensions.map Locator.normalExtension, config.ignoring, around.home⟩
  exact ⟨l, locator?_eq_some_iff.2 (Locator.ofPath_eq_ok_iff.2 ⟨h, hplace, rfl⟩)⟩

/-- A run is given up with the words of the backend if `Backend.verify` fails. -/
theorem value_run_of_unreachable (h : (around.tree s).isDir config.root)
    (hplace : (around.tree s).canonicalize config.root = .ok place) {e : GraphError}
    (hv : (backend.verify s).value = (.error e, s')) (elapsed : Nat) :
    (run config backend around elapsed s).value
      = (.error (.connection e.message), .aborted, s') := by
  obtain ⟨l, hl⟩ := exists_locator h hplace
  simp only [run, locator?_eq_some_iff.1 hl, Logged.value_bind, hv]
  rfl

/-- **A run that has reached the backend comes to its end**, whatever becomes of the files and
whether or not there are totals in the end. -/
theorem value_run_of_reached (h : (around.tree s).isDir config.root)
    (hplace : (around.tree s).canonicalize config.root = .ok place)
    (hv : (backend.verify s).value = (.ok (), s')) (elapsed : Nat) :
    ∃ summary s'', (run config backend around elapsed s).value = (.ok summary, .done, s'') := by
  obtain ⟨l, hl⟩ := exists_locator h hplace
  rw [value_run hl hv, value_ingest_eq]
  exact ⟨_, _, rfl⟩

end Run

/-! ## One run after another -/

/-- What a pipeline is run on: files and a backend, in the state in which the run finds them. -/
structure Occasion where
  σ : Type
  backend : Backend σ
  around : Surroundings σ
  elapsed : Nat
  start : σ

namespace Occasion

variable (o : Occasion)

/-- What a run leaves: its result, the pipeline, and the state of all else. -/
def outcome (p : Pipeline) : Except RunError RunSummary × Pipeline × o.σ :=
  (p.run o.backend o.around o.elapsed o.start).value

/-- The files that a run finds. -/
def tree : FileTree := o.around.tree o.start

/-- The same occasion, with a record of what the run asks for. -/
def observed : Occasion where
  σ := List RunEvent × o.σ
  backend := o.backend.observed
  around := o.around.observed
  elapsed := o.elapsed
  start := ([], o.start)

/-- The same occasion, with other answers to batches and to the question for the totals. -/
def answering (apply : Batch → o.σ → Logged (Answer o.σ Unit))
    (counts : o.σ → Logged (Answer o.σ GraphCounts)) : Occasion :=
  { o with backend := { o.backend with apply, counts } }

/-- **Why a run is given up**, before it has come to a file. -/
inductive Prevents (config : RunConfig) : RunError → Prop where
  /-- There is no directory at the root. -/
  | noDirectory (h : o.tree.isDir config.root = false) :
      Prevents config (.root (.notFound config.root))
  /-- There is a directory, but its place cannot be told. -/
  | unnamed {e : FileError} (hdir : o.tree.isDir config.root)
      (h : o.tree.canonicalize config.root = .error e) :
      Prevents config (.root (.unnamed e))
  /-- There is a directory at a place that can be told, but the backend cannot be reached. -/
  | unreachable {e : GraphError} {place : List String} (hdir : o.tree.isDir config.root)
      (hplace : o.tree.canonicalize config.root = .ok place)
      (h : (o.backend.verify o.start).value.1 = .error e) :
      Prevents config (.connection e.message)

variable {o} {p : Pipeline} {e : RunError}

/-- What `Run.run` gives is what a pipeline gives, with its stage in the pipeline. -/
theorem outcome_of_value {result : Except RunError RunSummary} {stage : RunStage} {s : o.σ}
    (h : (Run.run p.config o.backend o.around o.elapsed o.start).value = (result, stage, s)) :
    o.outcome p = (result, { p with stage }, s) := by
  simp only [outcome, Pipeline.run, Logged.value_bind, h]
  rfl

/-- **A run that is given up** leaves the pipeline aborted. It has asked for nothing but whether the
backend can be reached. -/
theorem outcome_of_prevents (h : o.Prevents p.config e) :
    ∃ s, (s = o.start ∨ s = (o.backend.verify o.start).value.2) ∧
      o.outcome p = (.error e, { p with stage := .aborted }, s) ∧
      o.observed.outcome p = (.error e, { p with stage := .aborted }, [], s) := by
  -- the observer sees the same files
  have htree : o.observed.around.tree o.observed.start = o.tree := rfl
  cases h with
  | noDirectory h =>
    exact ⟨o.start, .inl rfl, outcome_of_value (Run.value_run_of_no_directory h _),
      outcome_of_value (Run.value_run_of_no_directory (htree ▸ h) _)⟩
  | unnamed hdir h =>
    exact ⟨o.start, .inl rfl, outcome_of_value (Run.value_run_of_unnamed hdir h _),
      outcome_of_value (Run.value_run_of_unnamed (htree ▸ hdir) (htree ▸ h) _)⟩
  | @unreachable g place hdir hplace h =>
    have hv : (o.backend.verify o.start).value
        = (.error g, (o.backend.verify o.start).value.2) := by
      rw [← h]
    have hv' : (o.observed.backend.verify o.observed.start).value
        = (.error g, [], (o.backend.verify o.start).value.2) := by
      simp only [observed, Backend.observed, Logged.value_map, h]
    exact ⟨_, .inr rfl, outcome_of_value (Run.value_run_of_unreachable hdir hplace hv _),
      outcome_of_value (Run.value_run_of_unreachable (htree ▸ hdir) (htree ▸ hplace) hv' _)⟩

/-- **A run that is not given up** leaves the pipeline done. -/
theorem outcome_of_reached {place : List String} (hdir : o.tree.isDir p.config.root)
    (hplace : o.tree.canonicalize p.config.root = .ok place)
    (h : (o.backend.verify o.start).value.1 = .ok ()) :
    ∃ summary s, o.outcome p = (.ok summary, { p with stage := .done }, s) := by
  have hv : (o.backend.verify o.start).value = (.ok (), (o.backend.verify o.start).value.2) := by
    rw [← h]
  obtain ⟨summary, s, hvalue⟩ := Run.value_run_of_reached hdir hplace hv o.elapsed
  exact ⟨summary, s, outcome_of_value hvalue⟩

variable (o p) in
/-- A run is given up, or it has found a directory and its place and reached the backend. -/
theorem prevents_or_reached : (∃ e, o.Prevents p.config e) ∨
    ∃ place, o.tree.isDir p.config.root ∧ o.tree.canonicalize p.config.root = .ok place ∧
      (o.backend.verify o.start).value.1 = .ok () := by
  cases hdir : o.tree.isDir p.config.root with
  | false => exact .inl ⟨_, .noDirectory hdir⟩
  | true =>
    cases hplace : o.tree.canonicalize p.config.root with
    | error e => exact .inl ⟨_, .unnamed hdir hplace⟩
    | ok place =>
      cases h : (o.backend.verify o.start).value.1 with
      | error g => exact .inl ⟨_, .unreachable hdir hplace h⟩
      | ok u => exact .inr ⟨place, rfl, rfl, rfl⟩

variable (o p) in
/-- **The stage after a run** says whether it has failed. -/
theorem stage_outcome :
    ((o.outcome p).2.1.stage = .done ∧ ∃ summary, (o.outcome p).1 = .ok summary) ∨
      ((o.outcome p).2.1.stage = .aborted ∧ ∃ e, (o.outcome p).1 = .error e) := by
  rcases o.prevents_or_reached p with ⟨e, he⟩ | ⟨place, hdir, hplace, hv⟩
  · obtain ⟨s, -, hout, -⟩ := outcome_of_prevents he
    rw [hout]
    exact .inr ⟨rfl, e, rfl⟩
  · obtain ⟨summary, s, hout⟩ := outcome_of_reached hdir hplace hv
    rw [hout]
    exact .inl ⟨rfl, summary, rfl⟩

/-- **When a run fails.** -/
theorem outcome_eq_error_iff : (o.outcome p).1 = .error e ↔ o.Prevents p.config e := by
  constructor
  · intro h
    rcases o.prevents_or_reached p with ⟨e', he'⟩ | ⟨place, hdir, hplace, hv⟩
    · obtain ⟨s, -, hout, -⟩ := outcome_of_prevents he'
      rw [hout] at h
      cases h
      exact he'
    · obtain ⟨summary, s, hout⟩ := outcome_of_reached hdir hplace hv
      rw [hout] at h
      cases h
  · intro h
    obtain ⟨s, -, hout, -⟩ := outcome_of_prevents h
    rw [hout]

/-- **A run that fails has done nothing**: it has asked for nothing, and has at most reached the
backend. -/
theorem untouched_of_error (h : (o.outcome p).1 = .error e) :
    o.observed.outcome p = (.error e, (o.outcome p).2.1, [], (o.outcome p).2.2) ∧
      ((o.outcome p).2.2 = o.start ∨ (o.outcome p).2.2 = (o.backend.verify o.start).value.2) := by
  obtain ⟨s, hs, hout, hobserved⟩ := outcome_of_prevents (outcome_eq_error_iff.1 h)
  rw [hobserved, hout]
  exact ⟨rfl, hs⟩

end Occasion

namespace Pipeline

/-- A pipeline after some runs. -/
def after (p : Pipeline) (earlier : List Occasion) : Pipeline :=
  earlier.foldl (fun p o => (o.outcome p).2.1) p

/-- Runs do not change what is ingested. -/
theorem config_after (p : Pipeline) (earlier : List Occasion) :
    (p.after earlier).config = p.config := by
  induction earlier generalizing p with
  | nil => rfl
  | cons o earlier ih => exact ih (o.outcome p).2.1

/-- **Runs end done or are given up before anything is written.** Let a pipeline have run any number
of times, on any files and backends, and let it run once more. The run is as the first one would be.
It ends in the stage that says that it is done exactly if it has a summary, and in the one that says
that it was given up exactly if it has failed, and in no other. It fails exactly if there is no
directory at the root, if there is one whose place cannot be told, or if the backend cannot be
reached, and says which of these it was; then it has asked for no batch to be taken, and a graph
that is not changed by being reached is what it was before. Once the backend has been reached the
run does not fail, whatever the answers to batches and to the question for totals. -/
theorem ends_done_or_aborts_before_writing (p : Pipeline) (earlier : List Occasion) (o : Occasion) :
    let q := p.after earlier
    let out := o.outcome q
    out = o.outcome { config := p.config } ∧
    (out.2.1.stage = .done ↔ ∃ summary, out.1 = .ok summary) ∧
    (out.2.1.stage = .aborted ↔ ∃ e, out.1 = .error e) ∧
    (out.2.1.stage = .done ∨ out.2.1.stage = .aborted) ∧
    (∀ e, out.1 = .error e ↔ o.Prevents p.config e) ∧
    (∀ e, out.1 = .error e →
      o.observed.outcome q = (.error e, out.2.1, [], out.2.2) ∧
      ∀ store : o.σ → Store,
        (∀ s, (store (o.backend.verify s).value.2).snapshot = (store s).snapshot) →
        (store out.2.2).snapshot = (store o.start).snapshot) ∧
    (o.tree.isDir p.config.root →
      (∃ place, o.tree.canonicalize p.config.root = .ok place) →
      (o.backend.verify o.start).value.1 = .ok () →
      ∀ apply counts, ∃ summary, ((o.answering apply counts).outcome q).1 = .ok summary) := by
  intro q out
  have hconfig : q.config = p.config := p.config_after earlier
  have hfresh : out = o.outcome { config := p.config } := by
    simp only [out, Occasion.outcome, run, hconfig]
  refine ⟨hfresh, ?_, ?_, ?_, fun e => hconfig ▸ Occasion.outcome_eq_error_iff, ?_, ?_⟩
  · rcases o.stage_outcome q with ⟨hstage, hresult⟩ | ⟨hstage, e, hresult⟩
    · exact iff_of_true hstage hresult
    · simp [out, hstage, hresult]
  · rcases o.stage_outcome q with ⟨hstage, summary, hresult⟩ | ⟨hstage, hresult⟩
    · simp [out, hstage, hresult]
    · exact iff_of_true hstage hresult
  · exact (o.stage_outcome q).imp And.left And.left
  · intro e he
    obtain ⟨hobserved, hstate⟩ := Occasion.untouched_of_error he
    refine ⟨hobserved, fun store hverify => ?_⟩
    rcases hstate with hstate | hstate
    · rw [hstate]
    · rw [hstate, hverify]
  · rintro hdir ⟨place, hplace⟩ hv apply counts
    -- other answers do not change the files that the run finds
    rw [← hconfig] at hdir hplace
    have hreached : ((o.answering apply counts).backend.verify o.start).value.1 = .ok () := hv
    obtain ⟨summary, s, hout⟩ :=
      Occasion.outcome_of_reached (o := o.answering apply counts) hdir hplace hreached
    exact ⟨summary, congrArg Prod.fst hout⟩

/-- Files of which the working directory has been removed: `.` is still a directory, but it has no
place any more. -/
def removedTree : FileTree :=
  { root := .dir [("tmp", .dir [])], workDir := ["tmp"], unnamed := [(".", .notFound)] }

/-- A run in a working directory that has been removed. -/
def removed : Occasion where
  σ := Store
  backend := .memory
  around := { tree := fun _ => removedTree, stopRequested := fun _ => false }
  elapsed := 0
  start := .empty

/-- A pipeline that runs where it cannot tell its place, and once more: there is a directory at the
root, but it gives up with the error of the files and leaves the graph empty. -/
theorem ends_done_or_aborts_before_writing_removed :
    let out := removed.outcome (after { config := { root := "." } } [removed])
    removed.tree.isDir "." ∧ removed.tree.canonicalize "." = .error .notFound ∧
      out.1 = .error (.root (.unnamed .notFound)) ∧ out.2.1.stage = .aborted ∧
      out.2.2.snapshot = Store.empty.snapshot := by
  intro out
  obtain ⟨-, -, haborted, -, hfails, huntouched, -⟩ :=
    ends_done_or_aborts_before_writing { config := { root := "." } } [removed] removed
  have hdir : removed.tree.isDir "." := by cbv
  have hplace : removed.tree.canonicalize "." = .error .notFound := by cbv
  have herror : out.1 = .error (.root (.unnamed .notFound)) :=
    (hfails _).2 (.unnamed hdir hplace)
  exact ⟨hdir, hplace, herror, haborted.2 ⟨_, herror⟩,
    (huntouched _ herror).2 id fun _ => rfl⟩

end Pipeline

end CodeGraph
