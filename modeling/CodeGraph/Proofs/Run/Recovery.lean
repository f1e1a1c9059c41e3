import CodeGraph.Proofs.Graph.CanonicalForm
import CodeGraph.Proofs.Run.Effect
import Mathlib.Logic.Relation

/-! # Recovery from interrupted runs

A run can be asked to stop between two files, and a backend can refuse batches. Neither harms the
graph for good: after any number of such runs, one complete run leaves the snapshot that it would
have left without them.

While the files do not change, the batch of each file is the same in every run, so a run makes some
of the calls in `Run.planned` (`Leads.performs`), and a complete run makes them all, in order
(`Leads.performs_planned`). What remains is a law of graphs: calls whose upserts are all made again
afterwards are not seen (`Store.snapshot_performAll_absorb`). -/

namespace CodeGraph

/-! ## Absorption -/

/-- Names are not seen if they are all given again afterwards. -/
theorem Upsert.lastName?_append_of_subset (path : String) {ops ops' : List Upsert}
    (h : ops ⊆ ops') : lastName? path (ops ++ ops') = lastName? path ops' := by
  rw [lastName?_append]
  cases hlast : lastName? path ops' with
  | some name => rfl
  | none =>
    -- a file that is not named by the later upserts is not named by the earlier ones either
    rw [Option.none_or]
    exact lastName?_eq_none_iff.2 fun name hmem => lastName?_eq_none_iff.1 hlast name (h hmem)

namespace Store

/-- The upserts of two histories, one after the other, are those of one and then those of the
other. -/
theorem Call.allOps_append (calls calls' : List Call) :
    Call.allOps (calls ++ calls') = Call.allOps calls ++ Call.allOps calls' :=
  List.flatMap_append

/-- A history with more calls has all the upserts of one with fewer. -/
theorem Call.allOps_subset {calls calls' : List Call} (h : calls ⊆ calls') :
    Call.allOps calls ⊆ Call.allOps calls' := by
  intro op hop
  obtain ⟨c, hc, hmem⟩ := List.mem_flatMap.1 hop
  exact List.mem_flatMap.2 ⟨c, h hc, hmem⟩

/-- **Absorption**: calls that are all made again afterwards are not seen in the snapshot. -/
theorem snapshot_performAll_absorb {s : Store} (h : s.Consistent) {calls calls' : List Call}
    (hsub : calls ⊆ calls') :
    ((s.performAll calls).performAll calls').snapshot = (s.performAll calls').snapshot := by
  have hops : Call.allOps calls ⊆ Call.allOps calls' := Call.allOps_subset hsub
  rw [← performAll_append]
  refine snapshot_performAll_eq h (fun op => ?_) fun path => ?_
  · rw [Call.allOps_append, List.mem_append]
    exact ⟨fun hmem => hmem.elim (fun hop => hops hop) id, .inr⟩
  · rw [Call.allOps_append, Upsert.lastName?_append_of_subset path hops]

end Store

/-! ## Complete runs -/

/-- A summary that tells of no stop and of no refused batch. -/
def RunSummary.IsComplete (summary : RunSummary) : Prop :=
  summary.stopped = false ∧
    ∀ report ∈ summary.reports, ∀ problem, report.outcome ≠ .failed .writing problem

/-- A summary stays complete when a report is recorded that is not of a refused batch. -/
theorem RunSummary.IsComplete.record {summary : RunSummary} (h : summary.IsComplete)
    {report : FileReport} (hreport : ∀ problem, report.outcome ≠ .failed .writing problem) :
    (summary.record report).IsComplete := by
  refine ⟨?_, fun report' hmem => ?_⟩
  · rw [stopped_record]
    exact h.1
  · rw [reports_record, List.mem_append, List.mem_singleton] at hmem
    rcases hmem with hmem | rfl
    · exact h.2 report' hmem
    · exact hreport

namespace Run

variable {σ : Type} (config : RunConfig) (t : FileTree) (home : Option String)

/-- **A complete run** is not stopped and has no batch refused. If there is no repository then there
is nothing to do; a run that cannot reach the backend is not complete. -/
def IsComplete : Except RunError RunSummary → Prop
  | .ok summary => summary.IsComplete
  | .error (.root _) => True
  | .error (.connection _) => False

/-- The batches of all files of a repository, in the order of the walk. -/
def planned : List Store.Call :=
  match locator? config t home with
  | none => []
  | some l => ((l.files t).value.filterMap (planned? config t l)).map .apply

/-- **A run leads from one graph to another**, over any backend that takes or refuses batches as a
whole and in any surroundings that leave the files alone. Which batches are refused, and between
which files the run is asked to stop, is up to these. -/
def Leads (a : Store) (result : Except RunError RunSummary) (b : Store) : Prop :=
  ∃ (σ : Type) (backend : Backend σ) (around : Surroundings σ) (store : σ → Store) (elapsed : Nat)
    (s : σ), backend.Holds store ∧ around.Still store t home ∧ store s = a ∧
      (run config backend around elapsed s).value.1 = result ∧
      store (run config backend around elapsed s).value.2.2 = b

section Calls

variable {config t} {l : Locator}

/-- Only batches that are planned are written. -/
theorem written_subset (places : List (List String)) (reports : List FileReport) :
    written config t l places reports
      ⊆ (places.filterMap (planned? config t l)).map .apply := by
  intro c hc
  obtain ⟨⟨place, report⟩, hmem, hwritten⟩ := List.mem_filterMap.1 hc
  dsimp only at hwritten
  split at hwritten
  · cases hwritten
  · obtain ⟨b, hb, rfl⟩ := Option.map_eq_some_iff.1 hwritten
    exact List.mem_map.2 ⟨b, List.mem_filterMap.2 ⟨place, (List.of_mem_zip hmem).1, hb⟩, rfl⟩

/-- A file whose batch is not refused has its batch written, if it gives one. -/
theorem written_of_describes {place : List String} {report : FileReport}
    (h : Describes config t l place report)
    (hreport : ∀ problem, report.outcome ≠ .failed .writing problem) :
    written config t l [place] [report] = (planned? config t l place).toList.map .apply := by
  rw [written_singleton]
  cases hi : inspect config t l place with
  | error e =>
    rw [Describes, hi] at h
    rw [h, planned?, hi]
    rfl
  | ok f =>
    obtain ⟨facts, resolved⟩ := f
    rw [Describes, hi] at h
    rcases h with rfl | ⟨e, rfl⟩
    · rfl
    · exact absurd rfl (hreport _)

/-- Where no batch is refused, all that are planned are written. -/
theorem written_of_complete {places : List (List String)} {reports : List FileReport}
    (h : List.Forall₂ (Describes config t l) places reports)
    (hreports : ∀ report ∈ reports, ∀ problem, report.outcome ≠ .failed .writing problem) :
    written config t l places reports
      = (places.filterMap (planned? config t l)).map .apply := by
  induction h with
  | nil => rfl
  | @cons place report places reports hplace _ ih =>
    rw [List.forall_mem_cons] at hreports
    rw [written_cons, written_of_describes hplace hreports.1, ih hreports.2, ← List.map_append]
    cases hplan : planned? config t l place with
    | none => rw [List.filterMap_cons_none hplan]; rfl
    | some b => rw [List.filterMap_cons_some hplan]; rfl

variable {home} {a b : Store} {result : Except RunError RunSummary}

/-- What is planned for a repository are the batches of all its files. -/
theorem planned_of_locator (h : locator? config t home = some l) :
    planned config t home = ((l.files t).value.filterMap (planned? config t l)).map .apply := by
  rw [planned, h]

/-- Where there is no repository nothing is planned. -/
theorem planned_of_none (h : locator? config t home = none) : planned config t home = [] := by
  rw [planned, h]

/-- A run that leads from one graph to another either `Fails` or `Ends`. -/
theorem Leads.effect (h : Leads config t home a result b) :
    Fails config t home result a b ∨ Ends config t home result a b := by
  obtain ⟨σ, backend, around, store, elapsed, s, hb, ha, rfl, rfl, rfl⟩ := h
  exact run_effect config hb ha elapsed s

/-- **What any run does**: it makes some of the planned calls. -/
theorem Leads.performs (h : Leads config t home a result b) :
    ∃ calls, calls ⊆ planned config t home ∧ b = a.performAll calls := by
  rcases h.effect with ⟨e, -, rfl, -⟩ | ⟨l, summary, visited, rest, hl, -, hfiles, -, -, rfl⟩
  · exact ⟨[], List.nil_subset _, rfl⟩
  · refine ⟨_, fun c hc => ?_, rfl⟩
    rw [planned_of_locator hl, hfiles, List.filterMap_append, List.map_append]
    exact List.mem_append_left _ (written_subset visited summary.reports hc)

/-- **What a complete run does**: it makes all planned calls, in order. -/
theorem Leads.performs_planned (h : Leads config t home a result b) (hc : IsComplete result) :
    b = a.performAll (planned config t home) := by
  rcases h.effect with ⟨e, rfl, rfl, hnone⟩ | ⟨l, summary, visited, rest, hl, rfl, hfiles, hrest,
    hreports, rfl⟩
  · cases e with
    | root problem => rw [planned_of_none (hnone problem rfl)]; rfl
    | connection problem => exact hc.elim
  · rw [hrest hc.1, List.append_nil] at hfiles
    rw [planned_of_locator hl, hfiles, written_of_complete hreports hc.2]

/-- Some run leads from a graph to another one. -/
abbrev Step (config : RunConfig) (t : FileTree) (home : Option String) (a b : Store) : Prop :=
  ∃ result, Leads config t home a result b

/-- **What any number of runs do**: they make planned calls only. -/
theorem performs_of_reflTransGen (h : Relation.ReflTransGen (Step config t home) a b) :
    ∃ calls, calls ⊆ planned config t home ∧ b = a.performAll calls := by
  induction h with
  | refl => exact ⟨[], List.nil_subset _, rfl⟩
  | tail _ hstep ih =>
    obtain ⟨calls, hcalls, rfl⟩ := ih
    obtain ⟨result, hrun⟩ := hstep
    obtain ⟨more, hmore, rfl⟩ := hrun.performs
    exact ⟨calls ++ more, List.append_subset.2 ⟨hcalls, hmore⟩,
      (Store.performAll_append _ _ _).symm⟩

end Calls

/-! ## Runs that nothing disturbs -/

section Undisturbed

variable {config} {backend : Backend σ} {around : Surroundings σ} {l : Locator}

/-- What keeps a file from giving facts is not the backend. -/
theorem stage_ne_writing_of_inspect {t : FileTree} {place : List String} {e : IngestError}
    (h : inspect config t l place = .error e) : e.stage ≠ .writing := by
  simp only [inspect] at h
  split at h
  · cases h
    intro hstage
    cases hstage
  · split at h
    · cases h
      intro hstage
      cases hstage
    · cases h

variable (hgo : ∀ s, ¬ around.stopRequested s)
  (htakes : ∀ b s, ∃ s', (backend.apply b s).value = (.ok (), s'))
include hgo htakes

/-- **One visit of a complete run**: nothing stops it and no batch is refused, so it goes on
completely. -/
theorem isComplete_visitFile (place : List String) {r : Running σ} (h : r.summary.IsComplete) :
    ∃ r', (visitFile config backend around l place r).value = .going r' ∧
      r'.summary.IsComplete := by
  have hgo := hgo (around.meanwhile r.state)
  cases hi : inspect config (around.tree (around.meanwhile r.state)) l place with
  | error e =>
    refine ⟨_, value_visitFile_of_error hgo hi, h.record fun problem heq => ?_⟩
    injection heq with hstage
    exact stage_ne_writing_of_inspect hi hstage
  | ok f =>
    obtain ⟨facts, resolved⟩ := f
    obtain ⟨s', hs'⟩ := htakes (Plan.batch facts resolved) (around.meanwhile r.state)
    exact ⟨_, value_visitFile_of_accepted hgo hi hs', h.record nofun⟩

/-- **All visits of a complete run** leave its summary complete, by induction on the places. -/
theorem isComplete_visitEach (places : List (List String)) {r : Running σ}
    (h : r.summary.IsComplete) :
    (Locator.visitEach (visitFile config backend around l) places r).state.summary.IsComplete := by
  induction places generalizing r with
  | nil => exact h
  | cons place places ih =>
    obtain ⟨r', hvalue, hr'⟩ := isComplete_visitFile hgo htakes place h
    rw [Locator.visitEach, hvalue]
    exact ih hr'

/-- **A run that nothing disturbs is complete**: it is never asked to stop, and the backend can be
reached and takes every batch. -/
theorem isComplete_run {t : FileTree} {home : Option String} {store : σ → Store}
    (hb : backend.Holds store) (ha : around.Still store t home)
    (hreached : ∀ s, ∃ s', (backend.verify s).value = (.ok (), s')) (elapsed : Nat) (s : σ) :
    IsComplete (run config backend around elapsed s).value.1 := by
  simp only [run, ha.tree, ha.home]
  cases Locator.ofPath t config.root config.extensions config.ignoring home with
  | error e => exact trivial
  | ok l =>
    obtain ⟨s', hs'⟩ := hreached s
    obtain ⟨graph, s'', hvalue, -⟩ := value_ingest config l hb ha elapsed s'
    simp only [Logged.value_bind, hs', hvalue]
    exact isComplete_visitEach hgo htakes _ (r := { stage := .listing, state := s' })
      ⟨rfl, List.forall_mem_nil _⟩

end Undisturbed

end Run

/-! ## Interruptions -/

/-- Surroundings in which nothing happens. -/
def Surroundings.quiet (t : FileTree) (home : Option String) : Surroundings Store where
  tree _ := t
  stopRequested _ := false
  home := home

/-- Surroundings in which nothing happens leave the files alone. -/
theorem Surroundings.still_quiet (t : FileTree) (home : Option String) :
    (quiet t home).Still id t home where
  tree _ := rfl
  home := rfl
  meanwhile _ := rfl

/-- A graph in memory that comes with the number of files visited and refuses the batches of some of
them. -/
def Backend.refusing (refused : Nat → Bool) : Backend (Nat × Store) where
  name := "memory"
  verify s := return (.ok (), s)
  apply b s :=
    return if refused s.1 then (.error (.write "refused"), s) else (.ok (), s.1, s.2.apply b)
  counts s := return (.ok s.2.counts, s)

/-- A backend that refuses some batches still takes or refuses each as a whole. -/
theorem Backend.holds_refusing (refused : Nat → Bool) : (refusing refused).Holds Prod.snd where
  verify _ := rfl
  accepted b s s' h := by
    simp only [refusing, Logged.value_pure] at h
    split at h <;> cases h
    rfl
  refused b s e s' h := by
    simp only [refusing, Logged.value_pure] at h
    split at h <;> cases h
    rfl
  counts _ := rfl

/-- Surroundings that count the files visited and ask a run to stop after a number of them. -/
def Surroundings.stopping (t : FileTree) (home : Option String) (limit : Nat) :
    Surroundings (Nat × Store) where
  tree _ := t
  stopRequested s := limit < s.1
  meanwhile s := (s.1 + 1, s.2)
  home := home

/-- Surroundings that ask to stop after so many files leave the files alone. -/
theorem Surroundings.still_stopping (t : FileTree) (home : Option String) (limit : Nat) :
    (stopping t home limit).Still Prod.snd t home where
  tree _ := rfl
  home := rfl
  meanwhile _ := rfl

namespace Run

variable (config : RunConfig) (t : FileTree) (home : Option String)

section Interrupted

variable (l : Locator)

/-- The report of a file whose batch is refused or not. -/
def reportOf (isRefused : Bool) (place : List String) : FileReport :=
  match inspect config t l place with
  | .error e => .ofError (l.relativePath place) e
  | .ok (facts, resolved) =>
    if isRefused then
      .ofError (l.relativePath place) (.write (l.relativePath place) (.write "refused"))
    else ⟨l.relativePath place, .ingested facts.counts resolved.length⟩

/-- The reports of files that are numbered from `n` on, where the batches with some numbers are
refused. -/
def reportsFrom (refused : Nat → Bool) (n : Nat) (places : List (List String)) :
    List FileReport :=
  (places.zipIdx n).map fun p => reportOf config t l (refused p.2) p.1

/-- The report of a file is filed under its relative path. -/
theorem path_reportOf (isRefused : Bool) (place : List String) :
    (reportOf config t l isRefused place).path = l.relativePath place := by
  rw [reportOf]
  split
  · rfl
  · split <;> rfl

/-- The reports of files are filed under their relative paths, in order. -/
theorem map_path_reportsFrom (refused : Nat → Bool) (n : Nat) (places : List (List String)) :
    (reportsFrom config t l refused n places).map (·.path) = places.map l.relativePath := by
  calc (reportsFrom config t l refused n places).map (·.path)
      = (places.zipIdx n).map (l.relativePath ∘ Prod.fst) := by
        rw [reportsFrom, List.map_map]
        exact List.map_congr_left fun p _ => path_reportOf config t l _ _
    _ = places.map l.relativePath := by rw [← List.map_map, List.zipIdx_map_fst]

variable {config t home l} {refused : Nat → Bool} {limit : Nat} {r : Running (Nat × Store)}

/-- A visit when the limit has been reached is asked to stop. -/
theorem visitFile_interrupted_of_stop (h : limit ≤ r.state.1) (place : List String) :
    ∃ r', (visitFile config (.refusing refused) (.stopping t home limit) l place r).value
      = .ended r' ∧ r'.summary = { r.summary with stopped := true } :=
  ⟨_, value_visitFile_of_stop (decide_eq_true (Nat.lt_succ_of_le h)), rfl⟩

/-- A visit before the limit is reached records the report of the file, and counts one more. -/
theorem visitFile_interrupted_of_go (h : r.state.1 < limit) (place : List String) :
    ∃ r', (visitFile config (.refusing refused) (.stopping t home limit) l place r).value
      = .going r' ∧
      r'.summary = r.summary.record (reportOf config t l (refused (r.state.1 + 1)) place) ∧
      r'.state.1 = r.state.1 + 1 := by
  have hgo : ¬ (Surroundings.stopping t home limit).stopRequested
      ((Surroundings.stopping t home limit).meanwhile r.state) :=
    fun hstop => Nat.not_lt.2 h (of_decide_eq_true hstop)
  cases hi : inspect config t l place with
  | error e =>
    refine ⟨_, value_visitFile_of_error hgo hi, ?_, rfl⟩
    rw [reportOf, hi]
  | ok f =>
    obtain ⟨facts, resolved⟩ := f
    cases hrefused : refused (r.state.1 + 1) with
    | true =>
      refine ⟨_, value_visitFile_of_refused hgo hi (if_pos hrefused), ?_, rfl⟩
      rw [reportOf, hi]
      rfl
    | false =>
      refine ⟨_, value_visitFile_of_accepted hgo hi (if_neg (hrefused ▸ Bool.false_ne_true)), ?_,
        rfl⟩
      rw [reportOf, hi]
      rfl

variable (config t home l refused limit) in
/-- **Interruptions come as they are ordered**: the visits end after the given number of files, and
the batches with the given numbers are refused. -/
theorem visitEach_interrupted (r : Running (Nat × Store)) (places : List (List String)) :
    let summary := (Locator.visitEach
      (visitFile config (.refusing refused) (.stopping t home limit) l) places r).state.summary
    summary.reports = r.summary.reports
        ++ reportsFrom config t l refused (r.state.1 + 1) (places.take (limit - r.state.1)) ∧
      (summary.stopped ↔ r.summary.stopped ∨ limit - r.state.1 < places.length) := by
  induction places generalizing r with
  | nil => simp [Locator.visitEach, Locator.Progress.state, reportsFrom]
  | cons place places ih =>
    rw [Locator.visitEach]
    rcases Nat.lt_or_ge r.state.1 limit with h | h
    · obtain ⟨r', hvalue, hsummary, hcount⟩ := visitFile_interrupted_of_go h place
      obtain ⟨hreports, hstopped⟩ := ih r'
      have hleft : limit - r.state.1 = (limit - r'.state.1) + 1 := by omega
      have hsame : r'.summary.stopped = r.summary.stopped := by
        rw [hsummary, RunSummary.stopped_record]
      rw [hvalue]
      refine ⟨?_, ?_⟩
      · rw [hreports, hsummary, RunSummary.reports_record, List.append_assoc, hleft,
          List.take_succ_cons, reportsFrom, reportsFrom, List.zipIdx_cons, List.map_cons, hcount]
        rfl
      · rw [hstopped, hsame, hleft, List.length_cons, Nat.add_lt_add_iff_right]
    · obtain ⟨r', hvalue, hsummary⟩ := visitFile_interrupted_of_stop h place
      rw [hvalue, Nat.sub_eq_zero_of_le h, List.take_zero]
      simp [Locator.Progress.state, hsummary, reportsFrom]

/-- **What an interrupted run reports**: the files up to the limit, and that it was stopped if there
are more. -/
theorem run_interrupted (hl : locator? config t home = some l) (elapsed : Nat) (s : Store) :
    ∃ summary,
      (run config (.refusing refused) (.stopping t home limit) elapsed (0, s)).value.1
        = .ok summary ∧
      summary.reports = reportsFrom config t l refused 1 ((l.files t).value.take limit) ∧
      (summary.stopped ↔ limit < (l.files t).value.length) := by
  have hb := Backend.holds_refusing refused
  have ha := Surroundings.still_stopping t home limit
  have hrun : (run config (.refusing refused) (.stopping t home limit) elapsed (0, s)).value
      = (ingest config (.refusing refused) (.stopping t home limit) l elapsed (0, s)).value :=
    value_run hl rfl elapsed
  obtain ⟨graph, s', hvalue, -⟩ := value_ingest config l hb ha elapsed (0, s)
  obtain ⟨hreports, hstopped⟩ := visitEach_interrupted config t home l refused limit
    { stage := .listing, state := (0, s) } (l.files t).value
  rw [hrun, hvalue]
  exact ⟨_, rfl, hreports, hstopped.trans (or_iff_right Bool.false_ne_true)⟩

end Interrupted

/-- A run over the backend in memory with nothing around it `Leads` on and is complete. -/
theorem leads_memory (elapsed : Nat) (s : Store) :
    let out := (run config .memory (.quiet t home) elapsed s).value
    Leads config t home s out.1 out.2.2 ∧ IsComplete out.1 :=
  ⟨⟨Store, .memory, .quiet t home, id, elapsed, s, Backend.holds_memory,
      Surroundings.still_quiet t home, rfl, rfl, rfl⟩,
    isComplete_run (fun _ => Bool.false_ne_true) (fun b s => ⟨s.apply b, rfl⟩)
      Backend.holds_memory (Surroundings.still_quiet t home) (fun s => ⟨s, rfl⟩) elapsed s⟩

/-- A run with some batches refused and a limit to its files `Leads` on as well. -/
theorem leads_interrupted (refused : Nat → Bool) (limit elapsed : Nat) (s : Store) :
    let out := (run config (.refusing refused) (.stopping t home limit) elapsed (0, s)).value
    Leads config t home s out.1 out.2.2.2 :=
  ⟨Nat × Store, .refusing refused, .stopping t home limit, Prod.snd, elapsed, (0, s),
    Backend.holds_refusing refused, Surroundings.still_stopping t home limit, rfl, rfl, rfl⟩

/-- **A complete run makes up for interrupted ones.** Let any number of runs lead from a graph
`start` to a graph `current`, each stopped between any two files and with any of its batches
refused. A complete run then leaves the snapshot that it leaves if made on `start` alone, which is
`start` with the batches of all files; and one more complete run changes nothing.

Runs that are stopped after any number of files, and refused the batches with any numbers, are among
the runs meant here. On every graph in memory, a run that nobody stops is complete. -/
theorem complete_run_recovers (config : RunConfig) (t : FileTree) (home : Option String)
    {start current after alone : Store} {last only : Except RunError RunSummary}
    (hstart : start.Reachable) (hearlier : Relation.ReflTransGen (Step config t home) start current)
    (hlast : Leads config t home current last after) (hlast_complete : IsComplete last)
    (honly : Leads config t home start only alone) (honly_complete : IsComplete only) :
    after.snapshot = alone.snapshot ∧ alone = start.performAll (planned config t home) ∧
      (∀ result again, Leads config t home after result again → IsComplete result →
        again.snapshot = after.snapshot) ∧
      (∀ refused limit elapsed s,
        let out := (run config (.refusing refused) (.stopping t home limit) elapsed (0, s)).value
        Leads config t home s out.1 out.2.2.2 ∧
          ∀ l, locator? config t home = some l → ∃ summary, out.1 = .ok summary ∧
            summary.reports = reportsFrom config t l refused 1 ((l.files t).value.take limit) ∧
            (summary.stopped ↔ limit < (l.files t).value.length)) ∧
      ∀ elapsed s, let out := (run config .memory (.quiet t home) elapsed s).value
        Leads config t home s out.1 out.2.2 ∧ IsComplete out.1 := by
  -- the earlier runs made planned calls only, and both complete runs made all of them
  obtain ⟨calls, hcalls, rfl⟩ := performs_of_reflTransGen hearlier
  obtain rfl := hlast.performs_planned hlast_complete
  obtain rfl := honly.performs_planned honly_complete
  refine ⟨Store.snapshot_performAll_absorb hstart.consistent hcalls, rfl, ?_, ?_,
    leads_memory config t home⟩
  · intro result again hagain hcomplete
    obtain rfl := hagain.performs_planned hcomplete
    have hcurrent := Store.consistent_performAll hstart.consistent calls
    exact Store.snapshot_performAll_absorb hcurrent (List.Subset.refl _)
  · intro refused limit elapsed s
    exact ⟨leads_interrupted config t home refused limit elapsed s,
      fun l hl => run_interrupted hl elapsed s⟩

/-- Two files that import each other; of a first run the batch of the first file is refused, and a
second run is stopped after one file. -/
theorem complete_run_recovers_two_files :
    let config : RunConfig := { root := "/repo" }
    let files : Entry :=
      .dir [("a.py", .file "import b\n".toUTF8), ("b.py", .file "import a\n".toUTF8)]
    let t : FileTree := { root := .dir [("repo", files)] }
    let refused := (run config (.refusing (· == 1)) (.stopping t none 2) 0 (0, .empty)).value.2.2.2
    let stopped :=
      (run config (.refusing fun _ => false) (.stopping t none 1) 0 (0, refused)).value.2.2.2
    let complete := fun s => (run config .memory (.quiet t none) 0 s).value.2.2
    (complete stopped).snapshot = (complete .empty).snapshot ∧
      (complete (complete stopped)).snapshot = (complete stopped).snapshot := by
  intro config files t refused stopped complete
  have hearlier : Relation.ReflTransGen (Step config t none) .empty stopped :=
    .tail (.single ⟨_, leads_interrupted config t none (· == 1) 2 0 .empty⟩)
      ⟨_, leads_interrupted config t none (fun _ => false) 1 0 refused⟩
  have hcomplete := leads_memory config t none 0
  have h := complete_run_recovers config t none Store.reachable_empty hearlier
    (hcomplete stopped).1 (hcomplete stopped).2 (hcomplete .empty).1 (hcomplete .empty).2
  exact ⟨h.1, h.2.2.1 _ _ (hcomplete _).1 (hcomplete _).2⟩

end Run

end CodeGraph
