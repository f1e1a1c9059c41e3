import CodeGraph.Proofs.Graph.Repetitions
import CodeGraph.Proofs.Graph.Totals

/-! # What is planned for a file

The batch of a file holds the first occurrences of what is recorded of it, in a fixed order and
under the path of the file (`Plan.planned_is_recorded`). An upsert can be told from its link
(`Upsert.eq_of_link?_eq`), so that a batch without repetitions gives an empty graph one link for
each upsert that has one (`Store.relationCount_apply_empty`). -/

namespace CodeGraph

/-! ## Upserts and their links -/

namespace Upsert

/-- **An upsert can be told from its link.** -/
theorem eq_of_link?_eq {op op' : Upsert} {l : Link} (h : op.link? = some l)
    (h' : op'.link? = some l) : op = op' := by
  -- the kind of the link tells the upsert, but for what a definition defines
  cases op with
  | file path name => cases h
  | definition kind name file =>
    cases h
    cases op' with
    | definition kind' name' file' =>
      cases kind <;> cases kind' <;> simp_all [link?, relation?, nodes, DefinitionKind.node]
    | _ => simp [link?, relation?, nodes] at h'
  | _ =>
    cases h
    cases op' <;> simp_all [link?, relation?, nodes]

/-- The relation of an upsert is that of the link it asks for. -/
theorem relation_of_link? {op : Upsert} {l : Link} (h : op.link? = some l) :
    op.relation? = some l.relation := by
  cases op <;> cases h <;> rfl

/-- An upsert with a kind of link has a link. -/
theorem isSome_link? {op : Upsert} {relation : Relation} (h : op.relation? = some relation) :
    op.link?.isSome := by
  cases op with
  | file path name => cases h
  | _ => rfl

end Upsert

namespace Batch

/-- The upserts of a batch with a kind of link. -/
def opsOf (b : Batch) (relation : Relation) : List Upsert :=
  b.ops.toList.filter fun op => op.relation? == some relation

/-- `pushAll` leaves the file a batch is for alone. -/
theorem file_pushAll (b : Batch) (ops : List Upsert) : (b.pushAll ops).file = b.file := by
  induction ops generalizing b with
  | nil => rfl
  | cons op ops ih =>
    rw [pushAll_cons, ih, push]
    split <;> rfl

/-- `Batch.count` of a relation is the number of upserts of that relation in the batch. -/
theorem count_eq_length (b : Batch) (relation : Relation) :
    b.count relation = (b.opsOf relation).length := by
  rw [count, opsOf, ← Array.toList_filter, Array.length_toList]

end Batch

namespace Store

/-- **One link for each upsert**: where a batch has no repetitions, an empty graph gets as many
links of a kind as the batch has upserts with that kind of link. -/
theorem relationCount_apply_empty {b : Batch} (h : b.ops.toList.Nodup) (relation : Relation) :
    (empty.apply b).relationCount relation = b.count relation := by
  have hcall : empty.apply b = empty.performAll [.apply b] := rfl
  let links := (b.opsOf relation).filterMap Upsert.link?
  have hmem : ∀ l, l ∈ links ↔ l.relation = relation ∧ (empty.apply b).hasLink l := by
    intro l
    rw [hcall, hasLink_performAll consistent_empty, or_iff_left (hasLink_empty l)]
    simp only [links, Batch.opsOf, Call.allOps, Call.ops, List.flatMap_singleton,
      List.mem_filterMap, List.mem_filter, beq_iff_eq]
    constructor
    · rintro ⟨op, ⟨hop, hrelation⟩, hlink⟩
      rw [Upsert.relation_of_link? hlink, Option.some_inj] at hrelation
      exact ⟨hrelation, op, hop, hlink⟩
    · rintro ⟨rfl, op, hop, hlink⟩
      exact ⟨op, ⟨hop, Upsert.relation_of_link? hlink⟩, hlink⟩
  have hnodup : links.Nodup := by
    refine (h.filter _).filterMap ?_
    intro op op' l hop hop'
    exact Upsert.eq_of_link?_eq hop hop'
  have hlength : links.length = (b.opsOf relation).length := by
    refine List.filterMap_length_eq_length.2 fun op hop => ?_
    exact Upsert.isSome_link? (beq_iff_eq.1 (List.mem_filter.1 hop).2)
  have hconsistent : (empty.apply b).Consistent :=
    hcall ▸ consistent_performAll consistent_empty _
  rw [relationCount_eq_card hconsistent hmem, List.toFinset_card_of_nodup hnodup, hlength,
    Batch.count_eq_length]

end Store

/-! ## Plans -/

/-- The facts of a file, with another file recorded in each of them. -/
def FileFacts.refiled (facts : FileFacts) (file : String) : FileFacts :=
  { facts with
    functions := facts.functions.map fun f => { f with file }
    classes := facts.classes.map fun c => { c with file } }

namespace Plan

variable (facts : FileFacts) (resolved : List String)

/-- The files that single facts record do not count. -/
theorem upserts_refiled (file : String) :
    upserts (facts.refiled file) resolved = upserts facts resolved := by
  have hclass : ∀ c : ClassFact, ofClass facts.path { c with file } = ofClass facts.path c :=
    fun _ => rfl
  simp only [upserts, FileFacts.refiled, List.map_map, List.flatMap_map, Function.comp_def, hclass]

/-- A planned batch holds the upserts of its plan in order, each at its first occurrence. -/
theorem toList_ops_batch : (batch facts resolved).ops.toList = (upserts facts resolved).eraseDups :=
  Batch.toList_ops_pushAll_empty facts.path _

/-- A plan begins with the upsert that names the file, and no other upsert names one. -/
theorem exists_toList_ops_eq_cons :
    ∃ rest, (batch facts resolved).ops.toList = .file facts.path facts.name :: rest ∧
      ∀ path name, .file path name ∉ rest := by
  obtain ⟨others, hothers⟩ :
      ∃ others, upserts facts resolved = .file facts.path facts.name :: others := ⟨_, rfl⟩
  rw [toList_ops_batch, hothers, List.eraseDups_cons]
  refine ⟨_, rfl, fun path name hmem => ?_⟩
  rw [List.mem_eraseDups, List.mem_filter] at hmem
  -- the name that is given can only be that of the file, which has been left out
  have hfile : .file path name ∈ upserts facts resolved :=
    hothers ▸ List.mem_cons_of_mem _ hmem.1
  obtain ⟨rfl, rfl⟩ := file_mem_upserts_iff.1 hfile
  simp at hmem

/-- **A plan is what is recorded of a file, without repetitions.** The upserts of the batch are the
first occurrences of those of the file, of each class and what it inherits from, of each function,
of each imported file and of each call, all under the path of the file, whatever file single facts
record. So the batch begins with the only upsert that names a file and has no repetitions, and it
remembers what it holds; to write it to a backend that takes it gives the number of its upserts; and
in a graph that was empty there are then as many links of a kind as the batch has upserts with that
kind of link. -/
theorem planned_is_recorded (facts : FileFacts) (resolved : List String) :
    let b := batch facts resolved
    let ops := b.ops.toList
    let recorded : List Upsert :=
      [Upsert.file facts.path facts.name]
        ++ facts.classes.flatMap (fun c => Upsert.definition .classType c.name facts.path
          :: c.bases.map fun base => Upsert.inherits c.name facts.path base)
        ++ facts.functions.map (fun f => Upsert.definition .function f.name facts.path)
        ++ resolved.map (fun target => Upsert.imports facts.path target)
        ++ facts.calls.flatMap fun c =>
          (c.caller.toList.map fun caller => Upsert.call caller c.callee facts.path)
            ++ [Upsert.use c.callee facts.path]
    ops = recorded.eraseDups ∧ b.file = facts.path ∧
      (∀ file, batch (facts.refiled file) resolved = b) ∧
      (∃ rest, ops = .file facts.path facts.name :: rest ∧ ∀ path name, .file path name ∉ rest) ∧
      ops.Nodup ∧ (∀ op, op ∈ b.seen ↔ op ∈ ops) ∧
      (∀ (σ : Type) (backend : Backend σ) (s : σ), (backend.write facts resolved s).value
        = ((backend.apply b s).value.1.map fun _ => ops.length, (backend.apply b s).value.2)) ∧
      (∀ s, (Backend.memory.write facts resolved s).value = (.ok ops.length, s.apply b)) ∧
      ∀ relation, (Backend.memory.write facts resolved .empty).value.2.relationCount relation
        = b.count relation := by
  intro b ops recorded
  have hrecorded : recorded = upserts facts resolved := by
    -- only the calls are spelled out in another way than in the plan
    have hcall : (fun c : CallFact =>
        (c.caller.toList.map fun caller => Upsert.call caller c.callee facts.path)
          ++ [.use c.callee facts.path]) = ofCall facts.path := by
      funext c
      rw [ofCall]
      cases c.caller <;> rfl
    simp only [recorded, hcall]
    rfl
  have hops : ops = (upserts facts resolved).eraseDups := toList_ops_batch facts resolved
  have hnodup : ops.Nodup := hops ▸ Upsert.nodup_eraseDups _
  have hseen : b.Remembers := (Batch.remembers_empty facts.path).pushAll _
  have hwrite : ∀ s, (Backend.memory.write facts resolved s).value = (.ok ops.length, s.apply b) :=
    fun s => rfl
  refine ⟨?_, ?_, fun file => ?_, exists_toList_ops_eq_cons facts resolved, hnodup, fun op => ?_,
    fun σ backend s => backend.value_write facts resolved s, hwrite, fun relation => ?_⟩
  · rw [hrecorded, hops]
  · exact Batch.file_pushAll _ _
  · rw [batch, upserts_refiled]
    rfl
  · rw [hseen op, Array.mem_toList_iff]
  · rw [hwrite]
    exact Store.relationCount_apply_empty hnodup relation

end Plan

end CodeGraph
