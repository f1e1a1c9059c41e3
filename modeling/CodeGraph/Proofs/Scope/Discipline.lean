import CodeGraph.Scope.Program
import Mathlib.Data.List.Induction

/-! # The discipline of scopes

A program that enters and leaves functions opens and closes one frame after the other. Written out,
it is a sequence of events (`ScopeStep.eventsAll`), and the scopes that are seen while it runs are
the scopes that these events lead through (`ScopeStep.scopes_runAll`).

Which frames are open after some events can be said without a scope. A frame is open if ever since
it was opened at least as many frames have been opened as closed (`ScopeEvent.Opened`), and its
place in the scope is the number of frames that have been opened since and not closed
(`ScopeEvent.getElem?_frames_playAll`).

If in the body of each `within` the steps that stand there directly close what they open
(`ScopeStep.Balanced`), nothing in the body reaches below the frame of that `within`
(`ScopeStep.frames_runAll`). So the frame that is closed at its end is the one that was opened at
its start (`ScopeStep.Disciplined.restores`). -/

namespace CodeGraph

/-! ## Events -/

/-- A frame is opened, or the innermost one is closed. -/
inductive ScopeEvent where
  | enter (name : Option String)
  | leave
  deriving DecidableEq, Repr

namespace ScopeEvent

/-- Whether an event opens a frame. -/
def isEnter : ScopeEvent → Bool
  | enter _ => true
  | leave => false

/-- The scope after an event. -/
def play (s : Scope) : ScopeEvent → Scope
  | enter name => s.push name
  | leave => s.pop.2

/-- The scope after events, one after the other. -/
def playAll (s : Scope) (es : List ScopeEvent) : Scope := es.foldl play s

/-- Number of frames that events open. -/
def enters (es : List ScopeEvent) : Nat := es.countP isEnter

/-- Number of frames that events close. -/
def leaves (es : List ScopeEvent) : Nat := es.countP (!isEnter ·)

/-- **Events that never close more than they have opened**, at any point on the way. -/
def Keeps (es : List ScopeEvent) : Prop := ∀ before, before <+: es → leaves before ≤ enters before

/-- **A frame that is open after a history**: it was opened, and the events since then have never
closed more frames than they have opened. -/
def Opened (history : List ScopeEvent) (name : Option String) (since : List ScopeEvent) : Prop :=
  (∃ before, history = before ++ enter name :: since) ∧ Keeps since

/-- **The name of the innermost open frame that has one**: of all such frames it was opened last.
There is none if no open frame has a name. -/
def IsCaller (history : List ScopeEvent) : Option String → Prop
  | some name => ∃ since, Opened history (some name) since ∧
      ∀ other since', Opened history (some other) since' → since.length ≤ since'.length
  | none => ∀ name since, ¬ Opened history (some name) since

/-- Playing two lists of events is playing one after the other. -/
theorem playAll_append (s : Scope) (es fs : List ScopeEvent) :
    playAll s (es ++ fs) = playAll (playAll s es) fs := List.foldl_append

/-- Leaving a scope takes the innermost frame away, if there is one. -/
theorem frames_pop (s : Scope) : s.pop.2.frames = s.frames.tail := by
  obtain ⟨frames⟩ := s
  cases frames <;> rfl

section Counting

variable (es fs : List ScopeEvent) (name : Option String)

@[simp] theorem enters_append : enters (es ++ fs) = enters es + enters fs := List.countP_append

@[simp] theorem leaves_append : leaves (es ++ fs) = leaves es + leaves fs := List.countP_append

@[simp] theorem enters_nil : enters [] = 0 := rfl

@[simp] theorem leaves_nil : leaves [] = 0 := rfl

@[simp] theorem enters_enter : enters (enter name :: es) = enters es + 1 :=
  List.countP_cons_of_pos rfl

@[simp] theorem leaves_enter : leaves (enter name :: es) = leaves es :=
  List.countP_cons_of_neg (by simp [isEnter])

@[simp] theorem enters_leave : enters (leave :: es) = enters es :=
  List.countP_cons_of_neg (by simp [isEnter])

@[simp] theorem leaves_leave : leaves (leave :: es) = leaves es + 1 :=
  List.countP_cons_of_pos rfl

end Counting

/-- Events that `Keeps` close no more frames than they open. -/
theorem Keeps.le {es : List ScopeEvent} (h : Keeps es) : leaves es ≤ enters es :=
  h es List.prefix_rfl

/-- No events at all close nothing. -/
theorem keeps_nil : Keeps [] := by
  intro before hbefore
  rw [List.prefix_nil.1 hbefore]
  exact Nat.le_refl _

section Concat

variable (es : List ScopeEvent) (name : Option String)

theorem enters_concat_enter : enters (es ++ [enter name]) = enters es + 1 := by simp

theorem leaves_concat_enter : leaves (es ++ [enter name]) = leaves es := by simp

theorem enters_concat_leave : enters (es ++ [leave]) = enters es := by simp

theorem leaves_concat_leave : leaves (es ++ [leave]) = leaves es + 1 := by simp

end Concat

/-- Events with one more at the end `Keeps` if those before do and there is no frame too many closed
in the end. -/
theorem keeps_concat {es : List ScopeEvent} {e : ScopeEvent} :
    Keeps (es ++ [e]) ↔ Keeps es ∧ leaves (es ++ [e]) ≤ enters (es ++ [e]) := by
  constructor
  · intro h
    exact ⟨fun before hbefore => h before (hbefore.trans (List.prefix_append ..)), h.le⟩
  · rintro ⟨hkeeps, hle⟩ before hbefore
    rcases List.prefix_concat_iff.1 hbefore with rfl | hbefore
    · exact hle
    · exact hkeeps before hbefore

/-- A frame that is opened at the end breaks nothing. -/
theorem keeps_concat_enter {es : List ScopeEvent} {name : Option String} :
    Keeps (es ++ [enter name]) ↔ Keeps es := by
  rw [keeps_concat, enters_concat_enter, leaves_concat_enter, and_iff_left_iff_imp]
  intro hkeeps
  exact Nat.le_succ_of_le hkeeps.le

/-- A frame may be closed at the end if one is open by then. -/
theorem keeps_concat_leave {es : List ScopeEvent} :
    Keeps (es ++ [leave]) ↔ Keeps es ∧ leaves es < enters es := by
  rw [keeps_concat, enters_concat_leave, leaves_concat_leave, Nat.succ_le_iff]

/-! ## Open frames -/

/-- What has happened since a frame was opened, one event later. -/
theorem exists_enter_concat {history since : List ScopeEvent} {name : Option String}
    {e : ScopeEvent} :
    (∃ before, history ++ [e] = before ++ enter name :: since) ↔
      (since = [] ∧ e = enter name) ∨
        ∃ since', since = since' ++ [e] ∧ ∃ before, history = before ++ enter name :: since' := by
  constructor
  · rintro ⟨before, h⟩
    rcases List.eq_nil_or_concat since with rfl | ⟨since', last, rfl⟩
    · obtain ⟨-, he⟩ := List.append_inj' h rfl
      exact .inl ⟨rfl, by simpa using he⟩
    · rw [List.concat_eq_append, ← List.cons_append, ← List.append_assoc] at h
      obtain ⟨hhistory, he⟩ := List.append_inj' h rfl
      obtain rfl : e = last := by simpa using he
      exact .inr ⟨since', by simp, before, hhistory⟩
  · rintro (⟨rfl, rfl⟩ | ⟨since', rfl, before, rfl⟩)
    · exact ⟨history, rfl⟩
    · exact ⟨before, by simp⟩

section OneEvent

variable {history since : List ScopeEvent} {name opened : Option String}

/-- **One frame is opened**: it is open, and so are those that were. -/
theorem opened_concat_enter :
    Opened (history ++ [enter opened]) name since ↔
      (since = [] ∧ opened = name) ∨
        ∃ since', since = since' ++ [enter opened] ∧ Opened history name since' := by
  rw [Opened, exists_enter_concat, enter.injEq]
  constructor
  · rintro ⟨hnew | ⟨since', rfl, hbefore⟩, hkeeps⟩
    · exact .inl hnew
    · exact .inr ⟨since', rfl, hbefore, keeps_concat_enter.1 hkeeps⟩
  · rintro (⟨rfl, rfl⟩ | ⟨since', rfl, hbefore, hkeeps⟩)
    · exact ⟨.inl ⟨rfl, rfl⟩, keeps_nil⟩
    · exact ⟨.inr ⟨since', rfl, hbefore⟩, keeps_concat_enter.2 hkeeps⟩

/-- **One frame is closed**: those are still open that have others above them. -/
theorem opened_concat_leave :
    Opened (history ++ [leave]) name since ↔
      ∃ since', since = since' ++ [leave] ∧ Opened history name since' ∧
        leaves since' < enters since' := by
  rw [Opened, exists_enter_concat]
  constructor
  · rintro ⟨⟨-, hname⟩ | ⟨since', rfl, hbefore⟩, hkeeps⟩
    · cases hname
    · obtain ⟨hkeeps, hlt⟩ := keeps_concat_leave.1 hkeeps
      exact ⟨since', rfl, ⟨hbefore, hkeeps⟩, hlt⟩
  · rintro ⟨since', rfl, ⟨hbefore, hkeeps⟩, hlt⟩
    exact ⟨.inr ⟨since', rfl, hbefore⟩, keeps_concat_leave.2 ⟨hkeeps, hlt⟩⟩

end OneEvent

/-- **The frames of a scope are those that are open**, each at the place that says how many frames
have been opened since and not closed. -/
theorem getElem?_frames_playAll (history : List ScopeEvent) (i : Nat) (name : Option String) :
    (playAll .module history).frames[i]? = some ⟨name⟩ ↔
      ∃ since, Opened history name since ∧ enters since = leaves since + i := by
  -- on the last event: it moves every open frame one further out, or one further in
  induction history using List.reverseRecOn generalizing i with
  | nil =>
    constructor
    · intro h
      cases h
    · rintro ⟨since, ⟨⟨before, hbefore⟩, -⟩, -⟩
      simp at hbefore
  | append_singleton history e ih =>
    rw [playAll_append]
    cases e with
    | enter opened =>
      have hframes : (playAll (playAll .module history) [enter opened]).frames
          = ⟨opened⟩ :: (playAll .module history).frames := rfl
      simp only [hframes, opened_concat_enter]
      cases i with
      | zero =>
        constructor
        · intro h
          cases h
          exact ⟨[], .inl ⟨rfl, rfl⟩, rfl⟩
        · rintro ⟨since, ⟨-, rfl⟩ | ⟨since', rfl, hopened⟩, hcount⟩
          · rfl
          · -- those that were open before have one more above them now
            have hle := hopened.2.le
            rw [enters_concat_enter, leaves_concat_enter] at hcount
            omega
      | succ i =>
        rw [List.getElem?_cons_succ, ih]
        constructor
        · rintro ⟨since, hopened, hcount⟩
          refine ⟨since ++ [enter opened], .inr ⟨since, rfl, hopened⟩, ?_⟩
          rw [enters_concat_enter, leaves_concat_enter, hcount, Nat.add_assoc]
        · rintro ⟨since, ⟨rfl, -⟩ | ⟨since', rfl, hopened⟩, hcount⟩
          · rw [enters_nil, leaves_nil] at hcount
            omega
          · rw [enters_concat_enter, leaves_concat_enter] at hcount
            exact ⟨since', hopened, by omega⟩
    | leave =>
      have hframes : (playAll (playAll .module history) [leave]).frames
          = (playAll .module history).frames.tail := frames_pop _
      simp only [hframes, opened_concat_leave]
      rw [List.getElem?_tail, ih]
      constructor
      · rintro ⟨since, hopened, hcount⟩
        refine ⟨since ++ [leave], ⟨since, rfl, hopened, by omega⟩, ?_⟩
        rw [enters_concat_leave, leaves_concat_leave]
        omega
      · rintro ⟨since, ⟨since', rfl, hopened, -⟩, hcount⟩
        rw [enters_concat_leave, leaves_concat_leave] at hcount
        exact ⟨since', hopened, by omega⟩

/-- A frame that was opened later has fewer open frames above it. -/
theorem Opened.lt_of_length_lt {history since since' : List ScopeEvent}
    {name name' : Option String} {i j : Nat} (h : Opened history name since)
    (h' : Opened history name' since') (hi : enters since = leaves since + i)
    (hj : enters since' = leaves since' + j) (hlt : since.length < since'.length) : i < j := by
  obtain ⟨⟨before, hbefore⟩, -⟩ := h
  obtain ⟨⟨before', hbefore'⟩, hkeeps'⟩ := h'
  -- what has happened since the earlier one includes the opening of the later one
  have hsuffix : enter name :: since <:+ since' := by
    refine List.suffix_of_suffix_length_le ⟨before, hbefore.symm⟩ ?_ hlt
    exact ⟨before' ++ [enter name'], by simp [hbefore']⟩
  obtain ⟨between, rfl⟩ := hsuffix
  have hle : leaves between ≤ enters between := hkeeps' between (List.prefix_append ..)
  simp only [enters_append, leaves_append, enters_enter, leaves_enter] at hj
  omega

/-- **An open frame stands in the scope**, as many frames further out as have been opened since and
not closed. -/
theorem Opened.exists_place {history since : List ScopeEvent} {name : Option String}
    (h : Opened history name since) :
    ∃ i, (playAll .module history).frames[i]? = some ⟨name⟩ ∧
      enters since = leaves since + i := by
  have hle := h.2.le
  have hcount : enters since = leaves since + (enters since - leaves since) := by omega
  exact ⟨_, (getElem?_frames_playAll ..).2 ⟨since, h, hcount⟩, hcount⟩

/-- No function is around exactly if no frame is open. -/
theorem isModule_playAll (history : List ScopeEvent) :
    (playAll .module history).isModule ↔ ∀ name since, ¬ Opened history name since := by
  rw [Scope.isModule, List.isEmpty_iff]
  constructor
  · intro hnil name since h
    obtain ⟨i, hplace, -⟩ := h.exists_place
    simp [hnil] at hplace
  · intro hnone
    by_contra hne
    obtain ⟨⟨name⟩, frames, hframes⟩ := List.exists_cons_of_ne_nil hne
    obtain ⟨since, h, -⟩ := (getElem?_frames_playAll history 0 name).1 (by simp [hframes])
    exact hnone name since h

/-- The innermost open frame with a name is the one that is found first. -/
theorem isCaller_caller (history : List ScopeEvent) :
    IsCaller history (playAll .module history).caller := by
  cases hcaller : (playAll .module history).caller with
  | none =>
    rw [Scope.caller, List.findSome?_eq_none_iff] at hcaller
    intro name since h
    obtain ⟨i, hplace, -⟩ := h.exists_place
    cases hcaller _ (List.mem_of_getElem? hplace)
  | some name =>
    rw [Scope.caller, List.findSome?_eq_some_iff] at hcaller
    obtain ⟨above, ⟨found⟩, below, hframes, rfl, habove⟩ := hcaller
    have hplace : (playAll .module history).frames[above.length]? = some ⟨some name⟩ := by
      simp [hframes]
    obtain ⟨since, h, hcount⟩ := (getElem?_frames_playAll ..).1 hplace
    refine ⟨since, h, fun other since' h' => ?_⟩
    obtain ⟨j, hj, hcount'⟩ := h'.exists_place
    -- one that was opened later would be above, where no frame has a name
    by_contra hlater
    have hlt : j < above.length := h'.lt_of_length_lt h hcount' hcount (by omega)
    rw [hframes, List.getElem?_append_left hlt] at hj
    cases habove _ (List.mem_of_getElem? hj)

/-- There is one caller at most: of the open frames with a name only one was opened last. -/
theorem IsCaller.unique {history : List ScopeEvent} {c c' : Option String}
    (h : IsCaller history c) (h' : IsCaller history c') : c = c' := by
  cases c with
  | none =>
    cases c' with
    | none => rfl
    | some name =>
      obtain ⟨since, hopened, -⟩ := h'
      exact absurd hopened (h name since)
  | some name =>
    obtain ⟨since, hopened, hlast⟩ := h
    cases c' with
    | none => exact absurd hopened (h' name since)
    | some name' =>
      obtain ⟨since', hopened', hlast'⟩ := h'
      have hlength : since.length = since'.length :=
        Nat.le_antisymm (hlast name' since' hopened') (hlast' name since hopened)
      -- one and the same event opened both
      obtain ⟨⟨before, hbefore⟩, -⟩ := hopened
      obtain ⟨⟨before', hbefore'⟩, -⟩ := hopened'
      obtain ⟨-, hsame⟩ := List.append_inj' (hbefore.symm.trans hbefore') (by simp [hlength])
      cases hsame
      rfl

/-- **A call belongs to the innermost open frame that has a name.** -/
theorem caller_playAll (history : List ScopeEvent) (c : Option String) :
    (playAll .module history).caller = c ↔ IsCaller history c := by
  constructor
  · rintro rfl
    exact isCaller_caller history
  · intro h
    exact (isCaller_caller history).unique h

end ScopeEvent

/-! ## The scopes that a program leads through -/

/-- The scope that is seen. -/
def ScopeView.scope : ScopeView → Scope
  | entered s => s
  | after _ s => s

namespace ScopeStep

open ScopeEvent (play playAll enters leaves Keeps)

mutual
/-- A step, written out as events. -/
def events : ScopeStep → List ScopeEvent
  | push name => [.enter name]
  | pop => [.leave]
  | within name body => .enter name :: (eventsAll body ++ [.leave])

/-- Steps one after the other, written out as events. -/
def eventsAll : List ScopeStep → List ScopeEvent
  | [] => []
  | step :: steps => events step ++ eventsAll steps
end

/-- `run` of a `within` enters the function, runs the body and leaves the innermost frame. -/
theorem run_within (s : Scope) (name : Option String) (body : List ScopeStep) :
    run s (within name body)
      = let inner := runAll (s.push name) body
        (.entered (s.push name) :: inner.1 ++ [.after .left inner.2.pop.2], inner.2.pop.2) := by
  rw [run]
  rfl

/-- `runAll` runs the first step and then the others in the scope that it leaves. -/
theorem runAll_cons (s : Scope) (step : ScopeStep) (steps : List ScopeStep) :
    runAll s (step :: steps)
      = ((run s step).1 ++ (runAll (run s step).2 steps).1, (runAll (run s step).2 steps).2) := by
  rw [runAll]

/-- Running two lists of steps is running one after the other. -/
theorem runAll_append (s : Scope) (before steps : List ScopeStep) :
    runAll s (before ++ steps)
      = ((runAll s before).1 ++ (runAll (runAll s before).2 steps).1,
        (runAll (runAll s before).2 steps).2) := by
  induction before generalizing s with
  | nil => simp [runAll]
  | cons step before ih => simp [runAll_cons, ih]

/-- The scopes after some events, and then those after the events that follow. -/
theorem tail_scanl_append (s : Scope) (es fs : List ScopeEvent) :
    ((es ++ fs).scanl play s).tail
      = (es.scanl play s).tail ++ (fs.scanl play (playAll s es)).tail := by
  rw [List.scanl_append, List.tail_append_of_ne_nil List.scanl_ne_nil]
  rfl

mutual
/-- **One step**: what is seen are the scopes after its events. -/
theorem scopes_run (s : Scope) (step : ScopeStep) :
    (run s step).1.map ScopeView.scope = ((events step).scanl play s).tail ∧
      (run s step).2 = playAll s (events step) := by
  cases step with
  | push name => exact ⟨rfl, rfl⟩
  | pop => exact ⟨rfl, rfl⟩
  | within name body =>
    obtain ⟨hscopes, hscope⟩ := scopes_runAll (s.push name) body
    have hopen : events (within name body) = [.enter name] ++ eventsAll body ++ [.leave] := by
      rw [events]
      rfl
    have hbody : playAll s ([.enter name] ++ eventsAll body) = (runAll (s.push name) body).2 := by
      rw [ScopeEvent.playAll_append, hscope]
      rfl
    rw [run_within, hopen]
    constructor
    · have hentered : playAll s [.enter name] = s.push name := rfl
      rw [tail_scanl_append, hbody, tail_scanl_append, hentered, ← hscopes]
      simp [ScopeView.scope, play]
    · rw [ScopeEvent.playAll_append, hbody]
      rfl

/-- **A whole run**: what is seen are the scopes after the events of the steps. -/
theorem scopes_runAll (s : Scope) (steps : List ScopeStep) :
    (runAll s steps).1.map ScopeView.scope = ((eventsAll steps).scanl play s).tail ∧
      (runAll s steps).2 = playAll s (eventsAll steps) := by
  cases steps with
  | nil => exact ⟨rfl, rfl⟩
  | cons step steps =>
    obtain ⟨hscopes, hscope⟩ := scopes_run s step
    obtain ⟨hrest, hlast⟩ := scopes_runAll (run s step).2 steps
    rw [runAll_cons, eventsAll, tail_scanl_append, ScopeEvent.playAll_append, ← hscope, ← hscopes,
      ← hrest, ← hlast]
    exact ⟨List.map_append, rfl⟩
end

/-- **The scopes at all points of a run**, the first and the last included. -/
theorem scopes_eq_scanl (s : Scope) (steps : List ScopeStep) :
    s :: (runAll s steps).1.map ScopeView.scope = (eventsAll steps).scanl play s := by
  rw [(scopes_runAll s steps).1]
  cases eventsAll steps <;> simp

/-- The scope at each point of a run is the one after the events so far. -/
theorem getElem?_scopes {s t : Scope} {steps : List ScopeStep} {k : Nat}
    (h : (s :: (runAll s steps).1.map ScopeView.scope)[k]? = some t) :
    playAll s ((eventsAll steps).take k) = t := by
  rw [scopes_eq_scanl, List.getElem?_scanl] at h
  split at h
  · exact Option.some.inj h
  · cases h

/-- The last scope that is seen when steps are run is the one they leave. -/
theorem getLast?_scopes (s : Scope) (steps : List ScopeStep) :
    (s :: (runAll s steps).1.map ScopeView.scope).getLast? = some (runAll s steps).2 := by
  rw [scopes_eq_scanl, List.getLast?_scanl, (scopes_runAll s steps).2]
  rfl

/-- The events that open the frames of a scope, the outermost first. -/
def opening (s : Scope) : List ScopeEvent := s.frames.reverse.map fun f => .enter f.name

/-- The events `opening` a scope lead to it from the module. -/
theorem playAll_opening (s : Scope) : playAll .module (opening s) = s := by
  obtain ⟨frames⟩ := s
  induction frames with
  | nil => rfl
  | cons f frames ih =>
    have hopening : opening ⟨f :: frames⟩ = opening ⟨frames⟩ ++ [.enter f.name] := by
      simp [opening]
    rw [hopening, ScopeEvent.playAll_append, ih]
    rfl

/-! ## Balanced bodies -/

/-- What a step opens or closes itself; `within` does both. -/
def direct? : ScopeStep → Option ScopeEvent
  | push name => some (.enter name)
  | pop => some .leave
  | within _ _ => none

/-- **Steps of which those that stand there directly close what they open**: none of them closes a
frame that was open before, and in the end none is left open. -/
structure Balanced (steps : List ScopeStep) : Prop where
  keeps : Keeps (steps.filterMap direct?)
  closes : leaves (steps.filterMap direct?) = enters (steps.filterMap direct?)

/-- **A step in which the body of each `within` is balanced**, at all depths. -/
inductive Disciplined : ScopeStep → Prop
  | push (name : Option String) : Disciplined (push name)
  | pop : Disciplined pop
  | within (name : Option String) {body : List ScopeStep} (balanced : Balanced body)
      (inside : ∀ step ∈ body, Disciplined step) : Disciplined (within name body)

/-- A step that leaves the scope as it was and does not touch its frames on the way. -/
def Restores (step : ScopeStep) : Prop :=
  ∀ s, (run s step).2 = s ∧ ∀ view ∈ (run s step).1, s.frames <:+ view.scope.frames

/-- The events of some steps are those of the first, if it has one, and then those of the rest. -/
theorem filterMap_direct?_cons (step : ScopeStep) (steps : List ScopeStep) :
    (step :: steps).filterMap direct? = step.direct?.toList ++ steps.filterMap direct? := by
  cases step <;> rfl

/-- **One step keeps the frames at the bottom** if there is another one above them that it can
close. -/
theorem frames_run {step : ScopeStep} (hstep : step.direct? = none → Restores step)
    (above base : List Frame)
    (hroom : leaves step.direct?.toList ≤ enters step.direct?.toList + above.length) :
    (∀ view ∈ (run ⟨above ++ base⟩ step).1, base <:+ view.scope.frames) ∧
      ∃ above', (run ⟨above ++ base⟩ step).2 = ⟨above' ++ base⟩ ∧
        above'.length + leaves step.direct?.toList
          = above.length + enters step.direct?.toList := by
  cases step with
  | push name =>
    refine ⟨?_, ⟨name⟩ :: above, rfl, by simp [direct?]⟩
    intro view hview
    rw [run, List.mem_singleton] at hview
    rw [hview]
    exact List.suffix_append (⟨name⟩ :: above) base
  | pop =>
    cases above with
    | nil =>
      -- there must be a frame above the base to be closed
      simp [direct?] at hroom
    | cons f above =>
      refine ⟨?_, above, rfl, by simp [direct?]⟩
      intro view hview
      have hview : view = .after (.popped (some f)) ⟨above ++ base⟩ := by
        simpa [run, Scope.pop] using hview
      rw [hview]
      exact List.suffix_append above base
  | within name body =>
    obtain ⟨hscope, hviews⟩ := hstep rfl ⟨above ++ base⟩
    refine ⟨?_, above, hscope, rfl⟩
    intro view hview
    exact (List.suffix_append above base).trans (hviews view hview)

/-- **A run keeps the frames at the bottom**, if it opens frames before it closes them or finds
others above that it can close. -/
theorem frames_runAll {steps : List ScopeStep}
    (hsteps : ∀ step ∈ steps, step.direct? = none → Restores step) (above base : List Frame)
    (hroom : ∀ before, before <+: steps.filterMap direct? →
      leaves before ≤ enters before + above.length) :
    (∀ view ∈ (runAll ⟨above ++ base⟩ steps).1, base <:+ view.scope.frames) ∧
      ∃ above', (runAll ⟨above ++ base⟩ steps).2 = ⟨above' ++ base⟩ ∧
        above'.length + leaves (steps.filterMap direct?)
          = above.length + enters (steps.filterMap direct?) := by
  induction steps generalizing above with
  | nil => exact ⟨by simp [runAll], above, rfl, rfl⟩
  | cons step steps ih =>
    rw [List.forall_mem_cons] at hsteps
    rw [filterMap_direct?_cons] at hroom ⊢
    have hfirst := hroom step.direct?.toList (List.prefix_append ..)
    obtain ⟨hviews, above₁, hscope, hlength⟩ := frames_run hsteps.1 above base hfirst
    -- what the first step opens or closes is room that the others have or lack
    have hrest : ∀ before, before <+: steps.filterMap direct? →
        leaves before ≤ enters before + above₁.length := by
      intro before hbefore
      have hle := hroom (step.direct?.toList ++ before) ((List.prefix_append_right_inj _).2 hbefore)
      rw [ScopeEvent.leaves_append, ScopeEvent.enters_append] at hle
      omega
    obtain ⟨hviews', above₂, hscope', hlength'⟩ := ih hsteps.2 above₁ hrest
    rw [runAll_cons, hscope]
    refine ⟨?_, above₂, hscope', ?_⟩
    · intro view hview
      exact (List.mem_append.1 hview).elim (hviews view) (hviews' view)
    · rw [ScopeEvent.leaves_append, ScopeEvent.enters_append]
      omega

/-- The body of a `within` that is balanced leaves the frame of the `within` on top, and does not
touch it or what is below on the way. -/
theorem runAll_of_balanced {body : List ScopeStep} (h : Balanced body)
    (hbody : ∀ step ∈ body, step.direct? = none → Restores step) (s : Scope) :
    (runAll s body).2 = s ∧ ∀ view ∈ (runAll s body).1, s.frames <:+ view.scope.frames := by
  obtain ⟨hviews, above, hscope, hlength⟩ := frames_runAll hbody [] s.frames h.keeps
  have hnil : above = [] := by
    rw [h.closes, List.length_nil] at hlength
    exact List.length_eq_zero_iff.1 (by omega)
  rw [hnil] at hscope
  exact ⟨hscope, hviews⟩

/-- A `within` whose body restores the scope shows it entered and left, and restores what it was. -/
theorem run_within_of_restored {s : Scope} {name : Option String} {body : List ScopeStep}
    (h : (runAll (s.push name) body).2 = s.push name) :
    run s (within name body)
      = (.entered (s.push name) :: (runAll (s.push name) body).1 ++ [.after .left s], s) := by
  rw [run_within]
  dsimp only
  rw [h]
  rfl

/-- **A `within` leaves the scope as it found it**, and while it runs no frame that was open before
is touched. -/
theorem Disciplined.restores {step : ScopeStep} (h : Disciplined step)
    (hdirect : step.direct? = none) : Restores step := by
  induction h with
  | push name => cases hdirect
  | pop => cases hdirect
  | within name balanced _ ih =>
    intro s
    obtain ⟨hscope, hviews⟩ := runAll_of_balanced balanced ih (s.push name)
    have hbelow : s.frames <:+ (s.push name).frames := List.suffix_cons ..
    rw [run_within_of_restored hscope]
    refine ⟨rfl, ?_⟩
    simp only [List.cons_append, List.forall_mem_cons, List.forall_mem_append, ScopeView.scope]
    refine ⟨hbelow, fun view hview => hbelow.trans (hviews view hview), List.suffix_rfl, ?_⟩
    simp

/-! ## Steps that are reached -/

/-- **A step that is reached in a scope** when steps are run one after the other: one of them, or
one in the body of a `within` that is reached. -/
inductive Reaches : Scope → List ScopeStep → Scope → ScopeStep → Prop
  | here (s : Scope) (before : List ScopeStep) (step : ScopeStep) (after : List ScopeStep) :
      Reaches s (before ++ step :: after) (runAll s before).2 step
  | inside {s t u : Scope} {steps body : List ScopeStep} {name : Option String}
      {step : ScopeStep} : Reaches s steps t (within name body) →
      Reaches (t.push name) body u step → Reaches s steps u step

/-- Every step that is reached among disciplined steps is disciplined, by induction on the way to
it. -/
theorem Reaches.disciplined {s t : Scope} {steps : List ScopeStep} {step : ScopeStep}
    (h : Reaches s steps t step) (hsteps : ∀ step ∈ steps, Disciplined step) :
    Disciplined step := by
  induction h with
  | here s before step after => exact hsteps step (by simp)
  | inside _ _ ih ih' =>
    cases ih hsteps with
    | within name _ hinside => exact ih' hinside

/-- **A step that is reached is run there**, in the scope that was seen last. -/
theorem Reaches.views {s t : Scope} {steps : List ScopeStep} {step : ScopeStep}
    (h : Reaches s steps t step) :
    ∃ before after, (runAll s steps).1 = before ++ (run t step).1 ++ after ∧
      (s :: before.map ScopeView.scope).getLast? = some t := by
  induction h with
  | here s before step after =>
    refine ⟨(runAll s before).1, (runAll (run (runAll s before).2 step).2 after).1, ?_,
      getLast?_scopes s before⟩
    rw [runAll_append, runAll_cons, List.append_assoc]
  | @inside s t u steps body name step _ _ ih ih' =>
    obtain ⟨before, after, hviews, -⟩ := ih
    obtain ⟨before', after', hviews', hlast'⟩ := ih'
    rw [run_within] at hviews
    dsimp only at hviews
    rw [hviews'] at hviews
    refine ⟨before ++ .entered (t.push name) :: before',
      after' ++ .after .left (runAll (t.push name) body).2.pop.2 :: after, ?_, ?_⟩
    · simp [hviews]
    · have hentered : ScopeView.scope (.entered (t.push name)) = t.push name := rfl
      rw [List.map_append, ← List.cons_append, List.map_cons, hentered, List.getLast?_append,
        hlast', Option.some_or]

/-! ## The discipline -/

/-- **The discipline of scopes.** Let a program run from any scope, and let the body of each
`within` in it be balanced, at all depths; nothing is asked of the steps outside. Then each `within`
that is reached leaves the scope in which it was reached, with all its frames and their names, and
from when its frame has been opened to when it is closed all of these frames lie unchanged below
what is seen. At each point of the run, the caller is the name of the innermost open frame that has
one, and it is the module exactly if no frame is open, where a frame is open if ever since it was
opened at least as many frames have been opened as closed. -/
theorem scope_discipline (s : Scope) (steps : List ScopeStep)
    (h : ∀ step ∈ steps, Disciplined step) :
    let views := (runAll s steps).1
    (∀ t name body, Reaches s steps t (within name body) →
      (run t (within name body)).2 = t ∧
      ∃ before inside after,
        (run t (within name body)).1 = inside ++ [.after .left t] ∧
        views = before ++ (inside ++ [.after .left t]) ++ after ∧
        (s :: before.map ScopeView.scope).getLast? = some t ∧
        ∀ view ∈ inside, (t.push name).frames <:+ view.scope.frames) ∧
    ∀ k t, (s :: views.map ScopeView.scope)[k]? = some t →
      let history := opening s ++ (eventsAll steps).take k
      (∀ c, t.caller = c ↔ ScopeEvent.IsCaller history c) ∧
        (t.isModule ↔ ∀ name since, ¬ ScopeEvent.Opened history name since) := by
  intro views
  constructor
  · intro t name body hreaches
    obtain ⟨before, after, hviews, hlast⟩ := hreaches.views
    cases hreaches.disciplined h with
    | within _ balanced inside =>
      obtain ⟨hscope, hbody⟩ := runAll_of_balanced balanced
        (fun step hstep => (inside step hstep).restores) (t.push name)
      have hrun := run_within_of_restored hscope
      rw [hrun] at hviews ⊢
      refine ⟨rfl, before, _, after, rfl, hviews, hlast, ?_⟩
      exact List.forall_mem_cons.2 ⟨List.suffix_rfl, hbody⟩
  · intro k t hk history
    -- the scope at any point is the one its history plays, from the module on
    have hscope : playAll .module history = t := by
      rw [ScopeEvent.playAll_append, playAll_opening, getElem?_scopes hk]
    rw [← hscope]
    exact ⟨ScopeEvent.caller_playAll history, ScopeEvent.isModule_playAll history⟩

/-- A `within` inside a frame without a name, with a frame of its own and another `within` in its
body; afterwards there is one step too many. -/
theorem scope_discipline_nested :
    let body : List ScopeStep := [push (some "g"), within none [], pop]
    let steps := [push none, within (some "f") body, pop, pop, pop]
    let s : Scope := ⟨[⟨some "outer"⟩]⟩
    let t : Scope := ⟨[⟨none⟩, ⟨some "outer"⟩]⟩
    (∀ step ∈ steps, Disciplined step) ∧ Reaches s steps t (within (some "f") body) ∧
      (run t (within (some "f") body)).2 = t ∧
      ScopeEvent.IsCaller (opening s ++ (eventsAll steps).take 4) (some "g") ∧
      ∀ name since, ¬ ScopeEvent.Opened (opening s ++ (eventsAll steps).take 10) name since := by
  intro body steps s t
  have hkeeps : Keeps [.enter (some "g"), .leave] := by
    have hevents : [ScopeEvent.enter (some "g"), .leave] = [] ++ [.enter (some "g")] ++ [.leave] :=
      rfl
    rw [hevents, ScopeEvent.keeps_concat_leave, ScopeEvent.keeps_concat_enter]
    exact ⟨ScopeEvent.keeps_nil, by decide⟩
  have hinner : Disciplined (within none []) :=
    .within none ⟨ScopeEvent.keeps_nil, rfl⟩ (List.forall_mem_nil _)
  have hbody : ∀ step ∈ body, Disciplined step := by
    simp [body, hinner, Disciplined.push, Disciplined.pop]
  have hwithin : Disciplined (within (some "f") body) := .within _ ⟨hkeeps, rfl⟩ hbody
  have hsteps : ∀ step ∈ steps, Disciplined step := by
    simp [steps, hwithin, Disciplined.push, Disciplined.pop]
  have hreaches : Reaches s steps t (within (some "f") body) :=
    .here s [push none] _ [pop, pop, pop]
  obtain ⟨hrestores, hpoints⟩ := scope_discipline s steps hsteps
  refine ⟨hsteps, hreaches, (hrestores t _ body hreaches).1, ?_, ?_⟩
  · exact ((hpoints 4 _ rfl).1 (some "g")).1 rfl
  · exact (hpoints 10 _ rfl).2.1 rfl

end ScopeStep

end CodeGraph
