import CodeGraph.Proofs.Graph.Written
import Mathlib.Data.List.Infix

/-! # What it means to leave out repetitions

A batch takes no upsert twice, so that it holds the first occurrences of what is put into it
(`Batch.toList_ops_pushAll`). Nodes and links are only ever added, and for them a repetition makes
no difference. A name is replaced by the next one, and a repetition that is left out does not bring
it back: after a batch a file has the name that came up last (`Upsert.lastName?_eraseDups`), after
the upserts themselves the name that was given last. Upserts that give each file one name only, as
those planned for a file do (`Plan.namesOnce_upserts`), leave the same graph either way
(`Store.snapshot_apply_pushAll_of_namesOnce`). -/

namespace CodeGraph

/-! ## First occurrences -/

namespace Batch

/-- `pushAll` pushes the head first and the rest into its result. -/
theorem pushAll_cons (b : Batch) (op : Upsert) (ops : List Upsert) :
    b.pushAll (op :: ops) = (b.push op).2.pushAll ops := rfl

/-- A batch that remembers what it holds still does after `pushAll`, by induction on the upserts. -/
theorem Remembers.pushAll {b : Batch} (h : b.Remembers) (ops : List Upsert) :
    (b.pushAll ops).Remembers := by
  induction ops generalizing b with
  | nil => exact h
  | cons op ops ih => exact ih (h.push op)

/-- **A batch takes the first occurrences** of the upserts that it does not remember. -/
theorem toList_ops_pushAll (b : Batch) (ops : List Upsert) :
    (b.pushAll ops).ops.toList
      = b.ops.toList ++ (ops.filter fun op => !b.seen.contains op).eraseDups := by
  induction ops generalizing b with
  | nil => simp [pushAll]
  | cons op ops ih =>
    rw [pushAll_cons]
    by_cases hop : op ∈ b.seen
    · have hseen : b.seen.contains op = true := Std.HashSet.contains_iff_mem.2 hop
      rw [push_of_mem hop, ih, List.filter_cons_of_neg (by simp [hseen])]
    · have hseen : b.seen.contains op = false := by simpa using hop
      -- from now on the batch remembers the upsert as well
      have hrest : (ops.filter fun op' => !(b.seen.insert op).contains op')
          = (ops.filter fun op' => !b.seen.contains op').filter fun op' => !op' == op := by
        rw [List.filter_filter]
        refine List.filter_congr fun op' _ => ?_
        rw [Std.HashSet.contains_insert, Bool.not_or, Bool.beq_comm]
      rw [push_of_not_mem hop, ih, hrest, List.filter_cons_of_pos (by simp [hseen]),
        List.eraseDups_cons, Array.toList_push, List.append_assoc]
      rfl

/-- Pushed into an empty batch, upserts are kept in order, each at its first occurrence. -/
theorem toList_ops_pushAll_empty (file : String) (ops : List Upsert) :
    ((empty file).pushAll ops).ops.toList = ops.eraseDups := by
  rw [toList_ops_pushAll]
  simp [empty]

end Batch

/-! ## Names that come up -/

namespace Upsert

variable {path name : String} {op : Upsert} {ops : List Upsert}

/-- Whether another name of a file came up for the first time after it was given this one. -/
def Superseded (path name : String) (ops : List Upsert) : Prop :=
  ∃ before other, before ++ [.file path other] <+: ops ∧ .file path other ∉ before ∧
    .file path name ∈ before

/-- A name that was superseded had been given. -/
theorem Superseded.mem (h : Superseded path name ops) : .file path name ∈ ops := by
  obtain ⟨before, other, hprefix, -, hname⟩ := h
  exact hprefix.subset (List.mem_append_left _ hname)

/-- Whether no file is given two names. -/
def NamesOnce (ops : List Upsert) : Prop :=
  ∀ path name other, .file path name ∈ ops → .file path other ∈ ops → name = other

/-- Where no file is given two names, no name is superseded. -/
theorem NamesOnce.not_superseded (h : NamesOnce ops) : ¬ Superseded path name ops := by
  intro hsuperseded
  have hmem := hsuperseded.mem
  obtain ⟨before, other, hprefix, hnew, hname⟩ := hsuperseded
  have hother : .file path other ∈ ops := hprefix.subset (List.mem_append_right _ (by simp))
  rw [h path name other hmem hother] at hname
  exact hnew hname

/-- One more upsert supersedes a name if it gives another name that is new. -/
theorem superseded_concat :
    Superseded path name (ops ++ [op]) ↔
      Superseded path name ops ∨
        ∃ other, op = .file path other ∧ op ∉ ops ∧ .file path name ∈ ops := by
  constructor
  · rintro ⟨before, other, hprefix, hnew, hname⟩
    -- the other name came up with the last upsert, or before it
    rcases List.prefix_concat_iff.1 hprefix with heq | hprefix
    · obtain ⟨rfl, hop⟩ := List.append_inj' heq rfl
      obtain rfl : .file path other = op := by simpa using hop
      exact .inr ⟨other, rfl, hnew, hname⟩
    · exact .inl ⟨before, other, hprefix, hnew, hname⟩
  · rintro (⟨before, other, hprefix, hnew, hname⟩ | ⟨other, rfl, hnew, hname⟩)
    · exact ⟨before, other, hprefix.trans (List.prefix_append ops [op]), hnew, hname⟩
    · exact ⟨ops, other, List.prefix_rfl, hnew, hname⟩

/-- An upsert at the end that was there before adds nothing to the first occurrences. -/
theorem eraseDups_concat_of_mem (h : op ∈ ops) : (ops ++ [op]).eraseDups = ops.eraseDups := by
  rw [List.eraseDups_append]
  simp [List.removeAll, h]

/-- An upsert at the end that was not there before is one more first occurrence. -/
theorem eraseDups_concat_of_not_mem (h : op ∉ ops) :
    (ops ++ [op]).eraseDups = ops.eraseDups ++ [op] := by
  rw [List.eraseDups_append]
  simp [List.removeAll, h, List.eraseDups_cons]

/-- No upsert stands twice among the first occurrences. -/
theorem nodup_eraseDups (ops : List Upsert) : ops.eraseDups.Nodup := by
  induction ops using List.reverseRecOn with
  | nil => simp
  | append_singleton ops op ih =>
    by_cases hop : op ∈ ops
    · rwa [eraseDups_concat_of_mem hop]
    · have hnew : op ∉ ops.eraseDups := fun hmem => hop (List.mem_eraseDups.1 hmem)
      rw [eraseDups_concat_of_not_mem hop, ← List.concat_eq_append]
      exact ih.concat hnew

/-- **The name that came up last** is one that was given and after which no other came up. -/
theorem lastName?_eraseDups :
    lastName? path ops.eraseDups = some name ↔
      .file path name ∈ ops ∧ ¬ Superseded path name ops := by
  induction ops using List.reverseRecOn with
  | nil => simp [lastName?]
  | append_singleton ops op ih =>
    rw [superseded_concat, List.mem_append, List.mem_singleton]
    by_cases hop : op ∈ ops
    · -- a repetition adds no name
      rw [eraseDups_concat_of_mem hop, ih]
      have hmem : .file path name = op → .file path name ∈ ops := fun h => h ▸ hop
      tauto
    · rw [eraseDups_concat_of_not_mem hop, lastName?_append]
      cases hnames : op.nameFor? path with
      | none =>
        -- an upsert that does not name the file changes nothing for it
        have hother : ∀ other, op ≠ .file path other := by
          intro other h
          rw [nameFor?_eq_some_iff.2 h] at hnames
          cases hnames
        have hlast : ¬ ∃ other, op = .file path other ∧ op ∉ ops ∧ .file path name ∈ ops := by
          rintro ⟨other, h, -⟩
          exact hother other h
        simp only [lastName?, hnames, Option.none_or, ih, (hother name).symm, hlast, or_false]
      | some other =>
        obtain rfl := nameFor?_eq_some_iff.1 hnames
        simp only [lastName?, hnames, Option.none_or, Option.some_or, Option.some.injEq]
        constructor
        · rintro rfl
          refine ⟨.inr rfl, ?_⟩
          rintro (hsuperseded | ⟨-, -, -, hmem⟩)
          · exact hop hsuperseded.mem
          · exact hop hmem
        · rintro ⟨hmem | hmem, hnot⟩
          · exact absurd (.inr ⟨other, rfl, hop, hmem⟩) hnot
          · injection hmem with _ hname
            exact hname.symm

/-- A path is named by the first occurrences exactly when it is named at all. -/
theorem lastName?_eraseDups_eq_none_iff :
    lastName? path ops.eraseDups = none ↔ lastName? path ops = none := by
  simp only [lastName?_eq_none_iff, List.mem_eraseDups]

/-- Leaving out repetitions takes a name away exactly if another came up after it. -/
theorem lastName?_eraseDups_ne_iff :
    lastName? path ops.eraseDups ≠ lastName? path ops ↔
      ∃ name, lastName? path ops = some name ∧ Superseded path name ops := by
  cases hlast : lastName? path ops with
  | none =>
    have hnone := lastName?_eraseDups_eq_none_iff.2 hlast
    simp [hnone]
  | some name =>
    have hmem : .file path name ∈ ops := mem_of_lastName?_eq_some hlast
    rw [ne_eq, lastName?_eraseDups, not_and_not_right]
    simp [hmem]

end Upsert

/-- The upserts of a plan give one name, to the file that is planned. -/
theorem Plan.namesOnce_upserts (facts : FileFacts) (resolved : List String) :
    Upsert.NamesOnce (Plan.upserts facts resolved) := by
  have hone : ∀ path name, .file path name ∈ Plan.upserts facts resolved → name = facts.name := by
    intro path name hmem
    simp only [Plan.upserts, List.mem_append, List.mem_cons, List.mem_flatMap, List.mem_map] at hmem
    -- only the first upsert is of a file
    rcases hmem with (((hfile | ⟨c, -, hclass⟩) | ⟨f, -, hfunction⟩) | ⟨target, -, himport⟩)
      | ⟨c, -, hcall⟩
    · injection hfile
    · simp [Plan.ofClass] at hclass
    · cases hfunction
    · cases himport
    · cases hcaller : c.caller <;> simp [Plan.ofCall, hcaller] at hcall
  intro path name other hname hother
  rw [hone path name hname, hone path other hother]

/-! ## Batches and single upserts -/

namespace Store

variable {s : Store}

/-- After `Store.apply` a file has the last name the batch gives it, or the name it had. -/
theorem fileName?_apply (h : s.Consistent) (b : Batch) (path : String) :
    (s.apply b).fileName? path
      = (Upsert.lastName? path b.ops.toList).or (s.fileName? path) := by
  rw [apply_eq]
  exact fileName?_mergeAll h _ path

/-- **When a batch leaves another name** than its upserts one by one: exactly for the files whose
last name was given before, and superseded in between. -/
theorem fileName?_apply_pushAll_ne_iff (h : s.Consistent) (file path : String)
    (ops : List Upsert) :
    (s.apply ((Batch.empty file).pushAll ops)).fileName? path ≠ (s.mergeAll ops).fileName? path ↔
      ∃ name, Upsert.lastName? path ops = some name ∧ Upsert.Superseded path name ops := by
  rw [fileName?_apply h, fileName?_mergeAll h, Batch.toList_ops_pushAll_empty,
    ← Upsert.lastName?_eraseDups_ne_iff, ne_eq, ne_eq, not_iff_not]
  -- an older name is seen by neither or by both
  cases hlast : Upsert.lastName? path ops with
  | none => simp [Upsert.lastName?_eraseDups_eq_none_iff.2 hlast]
  | some name =>
    cases herased : Upsert.lastName? path ops.eraseDups with
    | none => simp [Upsert.lastName?_eraseDups_eq_none_iff.1 herased] at hlast
    | some other => simp

/-- A batch leaves the nodes that its upserts leave one after the other. -/
theorem containsNode_apply_pushAll (s : Store) (file : String) (ops : List Upsert) (k : NodeKey) :
    (s.apply ((Batch.empty file).pushAll ops)).containsNode k
      ↔ (s.mergeAll ops).containsNode k := by
  rw [apply_eq, Batch.toList_ops_pushAll_empty]
  change (s.mergeAll ops.eraseDups).containsNode k ↔ _
  simp only [containsNode_mergeAll, List.mem_eraseDups]

/-- A batch leaves the links that its upserts leave one after the other. -/
theorem hasLink_apply_pushAll (h : s.Consistent) (file : String) (ops : List Upsert) (l : Link) :
    (s.apply ((Batch.empty file).pushAll ops)).hasLink l ↔ (s.mergeAll ops).hasLink l := by
  rw [apply_eq, Batch.toList_ops_pushAll_empty]
  change (s.mergeAll ops.eraseDups).hasLink l ↔ _
  simp only [hasLink_mergeAll h, List.mem_eraseDups]

/-- **When a batch leaves the same snapshot**: no name is given last that is superseded. -/
theorem snapshot_apply_pushAll_eq_iff (h : s.Consistent) (file : String) (ops : List Upsert) :
    (s.apply ((Batch.empty file).pushAll ops)).snapshot = (s.mergeAll ops).snapshot ↔
      ¬ ∃ path name, Upsert.lastName? path ops = some name ∧ Upsert.Superseded path name ops := by
  have happlied : (s.apply ((Batch.empty file).pushAll ops)).Consistent :=
    consistent_performAll h [.apply ((Batch.empty file).pushAll ops)]
  have hnames := fun path => fileName?_apply_pushAll_ne_iff h file path ops
  rw [snapshot_eq_iff happlied (consistent_mergeAll h ops)]
  constructor
  · rintro halike ⟨path, hpath⟩
    exact (hnames path).2 hpath (halike.names path)
  · intro hnone
    refine ⟨containsNode_apply_pushAll s file ops, fun path => ?_, hasLink_apply_pushAll h file ops⟩
    by_contra hne
    exact hnone ⟨path, (hnames path).1 hne⟩

/-- A batch in which no file is given two names leaves the same snapshot. -/
theorem snapshot_apply_pushAll_of_namesOnce (h : s.Consistent) (file : String) {ops : List Upsert}
    (honce : Upsert.NamesOnce ops) :
    (s.apply ((Batch.empty file).pushAll ops)).snapshot = (s.mergeAll ops).snapshot := by
  rw [snapshot_apply_pushAll_eq_iff h]
  rintro ⟨path, name, -, hsuperseded⟩
  exact honce.not_superseded hsuperseded

/-- **Batches agree with single upserts but for names.** Applying a batch leaves the nodes and links
that the upserts put into it leave one after the other. It leaves another name for a file exactly if
the name given last is a repetition and another name came up in between; where there is no such file
it leaves the same snapshot. So it does where no file is given two names, and every batch that is
planned for a file is of this kind. -/
theorem repetitions_only_restore_names (calls : List Call) (file : String) (ops : List Upsert) :
    let s := empty.performAll calls
    let merged := s.mergeAll ops
    let applied := s.apply ((Batch.empty file).pushAll ops)
    (∀ k, applied.containsNode k ↔ merged.containsNode k) ∧
      (∀ l, applied.hasLink l ↔ merged.hasLink l) ∧
      (∀ path, applied.fileName? path ≠ merged.fileName? path ↔
        ∃ name, Upsert.lastName? path ops = some name ∧ Upsert.Superseded path name ops) ∧
      (applied.snapshot = merged.snapshot ↔
        ¬ ∃ path name, Upsert.lastName? path ops = some name ∧
          Upsert.Superseded path name ops) ∧
      (Upsert.NamesOnce ops → applied.snapshot = merged.snapshot) ∧
      ∀ facts resolved, Upsert.NamesOnce (Plan.upserts facts resolved) ∧
        (s.apply (Plan.batch facts resolved)).snapshot
          = (s.mergeAll (Plan.upserts facts resolved)).snapshot := by
  intro s merged applied
  have hs : s.Consistent := consistent_performAll consistent_empty calls
  refine ⟨containsNode_apply_pushAll s file ops, hasLink_apply_pushAll hs file ops,
    fun path => fileName?_apply_pushAll_ne_iff hs file path ops,
    snapshot_apply_pushAll_eq_iff hs file ops, snapshot_apply_pushAll_of_namesOnce hs file,
    fun facts resolved => ?_⟩
  have honce := Plan.namesOnce_upserts facts resolved
  exact ⟨honce, snapshot_apply_pushAll_of_namesOnce hs facts.path honce⟩

/-- A name that is given, replaced and given again: it is lost in a batch. -/
theorem repeated_name_lost :
    let ops : List Upsert :=
      [.file "a.js" "old.js", .file "a.js" "new.js", .file "a.js" "old.js"]
    (empty.mergeAll ops).fileName? "a.js" = some "old.js" ∧
      (empty.apply ((Batch.empty "a.js").pushAll ops)).fileName? "a.js" = some "new.js" := by
  intro ops
  constructor
  · rw [fileName?_mergeAll consistent_empty]
    decide
  · rw [fileName?_apply consistent_empty, Batch.toList_ops_pushAll_empty]
    decide

end Store

end CodeGraph
