import CodeGraph.Proofs.Graph.Decoding
import CodeGraph.Proofs.Graph.Repetitions

/-! # Batches that are written and read again

What a batch remembers is not written. A batch that is read again holds the upserts of the one that
was written and remembers none of them, so that it takes each of them once more. Of an upsert it
holds in the end as many copies as there are stretches between two reloads in which it is put into
the batch (`Batch.count_ops_actAll`). -/

namespace CodeGraph.Batch

variable {b : Batch} {op : Upsert} {ops : List Upsert}

/-! ## One reload -/

/-- The batch that a text gives. -/
def ofText? (text : String) : Option Batch := (Json.parse? text).bind ofJson?

/-- A batch that remembers nothing. -/
def forgetful (b : Batch) : Batch := { file := b.file, ops := b.ops }

/-- The JSON of a batch is within the depth that `Json.parse?` allows. -/
theorem readable (b : Batch) : Json.Readable Json.Reading.maxDepth b.toJson :=
  b.readable_toJson 124

/-- A batch written compactly is read back with its upserts, and without what it remembers. -/
theorem ofText?_compact (b : Batch) : ofText? b.toJson.compact = some b.forgetful := by
  rw [ofText?, b.readable.parse?_compact, Option.bind_some, ofJson?_toJson, forgetful]

/-- A batch written with line breaks is read back with its upserts, and without what it
remembers. -/
theorem ofText?_pretty (b : Batch) : ofText? b.toJson.pretty = some b.forgetful := by
  rw [ofText?, b.readable.parse?_pretty, Option.bind_some, ofJson?_toJson, forgetful]

/-- A batch that has been read back remembers no upsert. -/
theorem not_mem_seen_forgetful (b : Batch) (op : Upsert) : op ∉ b.forgetful.seen := by
  simp [forgetful]

/-- A batch that remembers its upserts is like its forgetful copy only if it has none. -/
theorem Remembers.beq_forgetful_iff (h : b.Remembers) : b.forgetful == b ↔ b.ops = #[] := by
  have hall : ((∅ : Std.HashSet Upsert).all fun op => b.seen.contains op) = true := by
    rw [Std.HashSet.all_eq_true_iff_forall_mem]
    intro op hop
    exact absurd hop Std.HashSet.not_mem_empty
  have hbeq : (b.forgetful == b) = (b.seen.size == 0) := by
    change (b.file == b.file && b.ops == b.ops && (∅ : Std.HashSet Upsert).size == b.seen.size
      && (∅ : Std.HashSet Upsert).all fun op => b.seen.contains op) = _
    simp [hall, Bool.beq_comm]
  rw [hbeq, ← Std.HashSet.isEmpty_eq_size_eq_zero, Std.HashSet.isEmpty_iff_forall_not_mem,
    Array.eq_empty_iff_forall_not_mem]
  exact forall_congr' fun op => not_congr (h op)

/-- A forgetful batch takes the first occurrences of whatever is put into it. -/
theorem toList_ops_forgetful (b : Batch) (ops : List Upsert) :
    (b.forgetful.pushAll ops).ops.toList = b.ops.toList ++ ops.eraseDups := by
  rw [toList_ops_pushAll]
  simp [forgetful]

/-! ## Answers of a batch -/

/-- Which upserts a batch takes, if they are put into it one after the other. -/
def answers (b : Batch) : List Upsert → List Bool
  | [] => []
  | op :: ops => (b.push op).1 :: (b.push op).2.answers ops

/-- `push` says whether the upsert was new to the batch's memory. -/
theorem push_fst (b : Batch) (op : Upsert) : (b.push op).1 = decide (op ∉ b.seen) := by
  by_cases hop : op ∈ b.seen
  · simp [push_of_mem hop, hop]
  · simp [push_of_not_mem hop, hop]

/-- `push op` adds `op` to what a batch remembers and nothing else. -/
theorem mem_seen_push {op' : Upsert} : op' ∈ (b.push op).2.seen ↔ op' ∈ b.seen ∨ op' = op := by
  by_cases hop : op ∈ b.seen
  · rw [push_of_mem hop, or_iff_left_of_imp]
    rintro rfl
    exact hop
  · rw [push_of_not_mem hop, Std.HashSet.mem_insert, beq_iff_eq, or_comm, eq_comm]

/-- An upsert is taken if it is neither remembered nor among those before it. -/
theorem answers_concat (b : Batch) (ops : List Upsert) (op : Upsert) :
    b.answers (ops ++ [op]) = b.answers ops ++ [decide (op ∉ b.seen ∧ op ∉ ops)] := by
  induction ops generalizing b with
  | nil => simp [answers, push_fst]
  | cons op' ops ih =>
    rw [List.cons_append, answers, answers, ih, List.cons_append]
    simp only [mem_seen_push, List.mem_cons, not_or, and_assoc]

/-- **A forgetful batch gives other answers** as soon as one of its upserts is put into it. -/
theorem Remembers.answers_forgetful_iff (h : b.Remembers) (ops : List Upsert) :
    b.forgetful.answers ops = b.answers ops ↔ ∀ op ∈ ops, op ∉ b.ops := by
  induction ops using List.reverseRecOn with
  | nil => simp [answers]
  | append_singleton ops op ih =>
    rw [answers_concat, answers_concat, List.append_singleton_inj, ih, decide_eq_decide, h op]
    simp only [b.not_mem_seen_forgetful op, not_false_eq_true, true_and, List.mem_append,
      List.mem_singleton, or_imp, forall_and, forall_eq]
    -- the answers to the last upsert are compared where it is not among those before it
    refine and_congr_right fun hops => ?_
    constructor
    · intro hsame hop
      exact (hsame.1 fun hmem => hops op hmem hop).1 hop
    · exact fun hop => ⟨fun hmem => ⟨hop, hmem⟩, And.right⟩

/-- **A forgetful batch holds other upserts** as soon as one of its upserts is put into it. -/
theorem Remembers.ops_forgetful_iff (h : b.Remembers) (ops : List Upsert) :
    (b.forgetful.pushAll ops).ops = (b.pushAll ops).ops ↔ ∀ op ∈ ops, op ∉ b.ops := by
  rw [← Array.toList_inj, toList_ops_forgetful, toList_ops_pushAll, List.append_cancel_left_eq]
  constructor
  · intro heq op hop hmem
    have hfilter : op ∈ (ops.filter fun op => !b.seen.contains op).eraseDups :=
      heq ▸ List.mem_eraseDups.2 hop
    have hnew := (List.mem_filter.1 (List.mem_eraseDups.1 hfilter)).2
    simp [(h op).2 hmem] at hnew
  · intro hnew
    rw [List.filter_eq_self.2]
    intro op hop
    have hseen : op ∉ b.seen := fun hseen => hnew op hop ((h op).1 hseen)
    simpa using hseen

/-! ## Reloads in between -/

/-- Something that is done with a batch. -/
inductive Step where
  | push (op : Upsert)
  /-- The batch is written and read again. -/
  | reload

/-- The batch after a step, if there is one. -/
def act (b : Batch) : Step → Option Batch
  | .push op => some (b.push op).2
  | .reload => ofText? b.toJson.compact

/-- The batch after steps one after the other. -/
def actAll (b : Batch) (steps : List Step) : Option Batch := steps.foldlM act b

/-- The upserts that are put into a batch before, between and after its reloads. -/
def stretches : List Step → List (List Upsert)
  | [] => [[]]
  | .push op :: steps => (stretches steps).modifyHead (op :: ·)
  | .reload :: steps => [] :: stretches steps

/-- There is always a first stretch, before any reload. -/
theorem exists_stretches (steps : List Step) :
    ∃ first later, stretches steps = first :: later := by
  induction steps with
  | nil => exact ⟨[], [], rfl⟩
  | cons step steps ih =>
    obtain ⟨first, later, h⟩ := ih
    cases step with
    | push op => exact ⟨op :: first, later, by rw [stretches, h, List.modifyHead_cons]⟩
    | reload => exact ⟨[], stretches steps, rfl⟩

/-- The first stretch meets what the batch remembers, the later ones a batch that remembers
nothing. -/
theorem exists_actAll (b : Batch) {steps : List Step} {first : List Upsert}
    {later : List (List Upsert)} (h : stretches steps = first :: later) :
    ∃ b', b.actAll steps = some b' ∧
      b'.ops.toList = (b.pushAll first).ops.toList ++ later.flatMap List.eraseDups := by
  -- by induction on the steps for every batch, since a reload goes on with another one
  induction steps generalizing b first later with
  | nil =>
    obtain ⟨rfl, rfl⟩ := List.cons.inj h
    exact ⟨b, rfl, by simp [pushAll]⟩
  | cons step steps ih =>
    obtain ⟨first', later', hsteps⟩ := exists_stretches steps
    cases step with
    | push op =>
      rw [stretches, hsteps, List.modifyHead_cons] at h
      obtain ⟨rfl, rfl⟩ := List.cons.inj h
      exact ih (b.push op).2 hsteps
    | reload =>
      rw [stretches, hsteps] at h
      obtain ⟨rfl, rfl⟩ := List.cons.inj h
      obtain ⟨b', hrun, hops⟩ := ih b.forgetful hsteps
      refine ⟨b', ?_, ?_⟩
      · rw [actAll, List.foldlM_cons, act, ofText?_compact]
        exact hrun
      · rw [hops, toList_ops_forgetful, List.flatMap_cons, List.append_assoc]
        rfl

/-- **Every stretch leaves one copy** of each upsert that is put into the batch in it. -/
theorem count_ops_actAll (file : String) (steps : List Step) :
    ∃ b, (empty file).actAll steps = some b ∧
      ∀ op, b.ops.toList.count op = (stretches steps).countP (op ∈ ·) := by
  obtain ⟨first, later, hsteps⟩ := exists_stretches steps
  obtain ⟨b, hrun, hops⟩ := exists_actAll (empty file) hsteps
  refine ⟨b, hrun, fun op => ?_⟩
  have hall : b.ops.toList = (stretches steps).flatMap List.eraseDups := by
    rw [hops, toList_ops_pushAll_empty, hsteps, List.flatMap_cons]
  rw [hall]
  -- a stretch holds an upsert at most once when its repetitions are left out
  generalize stretches steps = ss
  induction ss with
  | nil => rfl
  | cons s ss ih =>
    rw [List.flatMap_cons, List.count_append, ih, (Upsert.nodup_eraseDups s).count,
      List.countP_cons, Nat.add_comm]
    simp

/-- **A batch that is read again remembers nothing.** It holds the same upserts for the same file,
but it is like the batch that was written only if there are none of them. It gives the same answers
and holds the same upserts later exactly if none of its upserts is put into it again. However often
a batch is written and read again, it holds one copy of an upsert for each stretch in between in
which the upsert is put into it. -/
theorem reloading_forgets (file : String) (ops more : List Upsert) (steps : List Step) :
    let b := (empty file).pushAll ops
    (∃ r, ofText? b.toJson.compact = some r ∧ ofText? b.toJson.pretty = some r ∧
        r.file = b.file ∧ r.ops = b.ops ∧ (r == b ↔ ops = []) ∧
        (r.answers more = b.answers more ↔ ∀ op ∈ more, op ∉ ops) ∧
        ((r.pushAll more).ops = (b.pushAll more).ops ↔ ∀ op ∈ more, op ∉ ops)) ∧
      ∃ e, (empty file).actAll steps = some e ∧
        ∀ op, e.ops.toList.count op = (stretches steps).countP (op ∈ ·) := by
  intro b
  have hremembers : b.Remembers := (remembers_empty file).pushAll ops
  have hmem : ∀ op, op ∈ b.ops ↔ op ∈ ops := by
    intro op
    rw [← Array.mem_toList_iff, toList_ops_pushAll_empty, List.mem_eraseDups]
  refine ⟨⟨b.forgetful, b.ofText?_compact, b.ofText?_pretty, rfl, rfl, ?_, ?_, ?_⟩,
    count_ops_actAll file steps⟩
  · rw [hremembers.beq_forgetful_iff, Array.eq_empty_iff_forall_not_mem,
      List.eq_nil_iff_forall_not_mem]
    simp only [hmem]
  · simp only [hremembers.answers_forgetful_iff, hmem]
  · simp only [hremembers.ops_forgetful_iff, hmem]

/-- A batch with one upsert, which takes it once more after it was written and read again. -/
theorem taken_twice_after_reload :
    let op : Upsert := .use "f" "a.js"
    let b := (empty "a.js").pushAll [op]
    (b.push op).1 = false ∧
      ∃ r, ofText? b.toJson.compact = some r ∧ (r == b) = false ∧
        (r.push op).1 = true ∧ (r.push op).2.ops = #[op, op] := by
  intro op b
  have hremembers : b.Remembers := (remembers_empty "a.js").pushAll [op]
  have hops : b.ops = #[op] := by
    rw [← Array.toList_inj, toList_ops_pushAll_empty]
    rfl
  have hseen : op ∈ b.seen := (hremembers op).2 (by simp [hops])
  have hfresh := b.not_mem_seen_forgetful op
  refine ⟨by rw [push_of_mem hseen], b.forgetful, b.ofText?_compact, ?_, ?_, ?_⟩
  · rw [Bool.eq_false_iff]
    intro hbeq
    simp [hremembers.beq_forgetful_iff.1 hbeq] at hops
  · rw [push_of_not_mem hfresh]
  · rw [push_of_not_mem hfresh]
    simp [forgetful, hops]

end CodeGraph.Batch
