import CodeGraph.Graph.Backend
import CodeGraph.Proofs.Graph.CanonicalForm

/-! # What is written for files

A batch remembers what it holds, so the batch of a file holds the upserts of its plan and no others
(`Plan.mem_batch`). These are read once and for all: `Plan.nodesOf` and `Plan.linksOf` are the nodes
and links of a file by kind, in terms of its facts, and they are those of its upserts
(`Plan.mem_nodesOf`, `Plan.mem_linksOf`). What is in a graph after files were written one after the
other is then what the files give, whatever their order (`Store.containsNode_writeAll`,
`Store.hasLink_writeAll`, `Store.isSome_fileName?_writeAll`). -/

namespace CodeGraph

deriving instance ReflBEq, LawfulBEq for DefinitionKind
deriving instance ReflBEq, LawfulBEq for Upsert

/-! ## Batches hold what is put into them -/

namespace Batch

variable {b : Batch}

/-- A batch that remembers the upserts that it holds, and no others. -/
def Remembers (b : Batch) : Prop := ∀ op, op ∈ b.seen ↔ op ∈ b.ops

/-- `Batch.empty` remembers what it holds, which is nothing. -/
theorem remembers_empty (file : String) : (empty file).Remembers := by
  intro op
  simp [empty]

/-- `push` of an upsert that is remembered changes nothing and says so. -/
theorem push_of_mem {op : Upsert} (h : op ∈ b.seen) : b.push op = (false, b) := by
  rw [push, if_pos (Std.HashSet.contains_iff_mem.2 h)]

/-- `push` of an upsert that is not remembered puts it at the end and remembers it. -/
theorem push_of_not_mem {op : Upsert} (h : op ∉ b.seen) :
    b.push op = (true, { b with ops := b.ops.push op, seen := b.seen.insert op }) := by
  rw [push, if_neg (fun hc => h (Std.HashSet.contains_iff_mem.1 hc))]

/-- A batch that remembers what it holds still does after a `push`. -/
theorem Remembers.push (h : b.Remembers) (op : Upsert) : (b.push op).2.Remembers := by
  by_cases hop : op ∈ b.seen
  · rwa [push_of_mem hop]
  · intro op'
    rw [push_of_not_mem hop, Std.HashSet.mem_insert, Array.mem_push, beq_iff_eq, h op', or_comm,
      eq_comm]

/-- **One upsert**: afterwards the batch holds it, and all else as before. -/
theorem Remembers.mem_push (h : b.Remembers) {op op' : Upsert} :
    op' ∈ (b.push op).2.ops ↔ op' ∈ b.ops ∨ op' = op := by
  by_cases hop : op ∈ b.seen
  · rw [push_of_mem hop]
    constructor
    · exact Or.inl
    · rintro (hmem | rfl)
      exacts [hmem, (h _).1 hop]
  · rw [push_of_not_mem hop, Array.mem_push]

/-- **Many upserts**: afterwards the batch holds them all. -/
theorem Remembers.mem_pushAll (h : b.Remembers) {ops : List Upsert} {op : Upsert} :
    op ∈ (b.pushAll ops).ops ↔ op ∈ b.ops ∨ op ∈ ops := by
  induction ops generalizing b with
  | nil => simp [pushAll]
  | cons op' ops ih =>
    have hstep : b.pushAll (op' :: ops) = (b.push op').2.pushAll ops := rfl
    rw [hstep, ih (h.push op'), h.mem_push, List.mem_cons, or_assoc]

end Batch

/-! ## What a file gives -/

namespace FileFacts

/-- The calls that have a caller, as pairs of names. -/
def callerPairs (f : FileFacts) : List (String × String) :=
  f.calls.filterMap fun c => c.caller.map (·, c.callee)

/-- The classes with what they inherit from, as pairs of names. -/
def basePairs (f : FileFacts) : List (String × String) :=
  f.classes.flatMap fun c => c.bases.map (c.name, ·)

/-- The names of all functions that are declared, call or are called. -/
def functionMentions (f : FileFacts) : List String :=
  f.functions.map (·.name) ++ f.calls.filterMap (·.caller) ++ f.calls.map (·.callee)

/-- The caller pairs of a file are those of its calls that are made inside a function. -/
@[simp] theorem mem_callerPairs {f : FileFacts} {p : String × String} :
    p ∈ f.callerPairs ↔ ∃ c ∈ f.calls, c.caller = some p.1 ∧ c.callee = p.2 := by
  obtain ⟨caller, callee⟩ := p
  simp [callerPairs]

/-- The base pairs of a file are those of its classes and the bases each of them names. -/
@[simp] theorem mem_basePairs {f : FileFacts} {p : String × String} :
    p ∈ f.basePairs ↔ ∃ c ∈ f.classes, c.name = p.1 ∧ p.2 ∈ c.bases := by
  obtain ⟨child, base⟩ := p
  simp only [basePairs, List.mem_flatMap, List.mem_map, Prod.mk.injEq]
  constructor
  · rintro ⟨c, hc, base', hbase, rfl, rfl⟩
    exact ⟨c, hc, rfl, hbase⟩
  · rintro ⟨c, hc, rfl, hbase⟩
    exact ⟨c, hc, base, hbase, rfl, rfl⟩

end FileFacts

namespace Plan

variable {facts : FileFacts} {resolved : List String}

variable {P : Upsert → Prop}

/-- What is recorded of the classes of a file. -/
theorem exists_ofClass :
    (∃ op ∈ facts.classes.flatMap (ofClass facts.path), P op) ↔
      (∃ c ∈ facts.classes, P (.definition .classType c.name facts.path)) ∨
        ∃ p ∈ facts.basePairs, P (.inherits p.1 facts.path p.2) := by
  simp only [List.mem_flatMap, ofClass, List.mem_cons, List.mem_map, FileFacts.mem_basePairs]
  constructor
  · rintro ⟨op, ⟨c, hc, rfl | ⟨base, hbase, rfl⟩⟩, hP⟩
    · exact .inl ⟨c, hc, hP⟩
    · exact .inr ⟨(c.name, base), ⟨c, hc, rfl, hbase⟩, hP⟩
  · rintro (⟨c, hc, hP⟩ | ⟨p, ⟨c, hc, hname, hbase⟩, hP⟩)
    · exact ⟨_, ⟨c, hc, .inl rfl⟩, hP⟩
    · exact ⟨_, ⟨c, hc, .inr ⟨p.2, hbase, by rw [hname]⟩⟩, hP⟩

/-- What is recorded of the calls of a file. -/
theorem exists_ofCall :
    (∃ op ∈ facts.calls.flatMap (ofCall facts.path), P op) ↔
      (∃ p ∈ facts.callerPairs, P (.call p.1 p.2 facts.path)) ∨
        ∃ c ∈ facts.calls, P (.use c.callee facts.path) := by
  have hmem : ∀ {c : CallFact} {op : Upsert}, op ∈ ofCall facts.path c ↔
      (∃ caller, c.caller = some caller ∧ op = .call caller c.callee facts.path) ∨
        op = .use c.callee facts.path := by
    intro c op
    rw [ofCall]
    cases c.caller <;> simp
  simp only [List.mem_flatMap, hmem, FileFacts.mem_callerPairs]
  constructor
  · rintro ⟨op, ⟨c, hc, ⟨caller, hcaller, rfl⟩ | rfl⟩, hP⟩
    · exact .inl ⟨(caller, c.callee), ⟨c, hc, hcaller, rfl⟩, hP⟩
    · exact .inr ⟨c, hc, hP⟩
  · rintro (⟨p, ⟨c, hc, hcaller, hcallee⟩, hP⟩ | ⟨c, hc, hP⟩)
    · exact ⟨_, ⟨c, hc, .inl ⟨p.1, hcaller, by rw [hcallee]⟩⟩, hP⟩
    · exact ⟨_, ⟨c, hc, .inr rfl⟩, hP⟩

/-- **All that is recorded of a file**: something holds of one of the upserts exactly if it holds of
that of the file, of a class, of what a class inherits from, of a function, of an imported file, of
a call or of what is called. -/
theorem exists_upsert :
    (∃ op ∈ upserts facts resolved, P op) ↔
      P (.file facts.path facts.name) ∨
      (∃ c ∈ facts.classes, P (.definition .classType c.name facts.path)) ∨
      (∃ p ∈ facts.basePairs, P (.inherits p.1 facts.path p.2)) ∨
      (∃ f ∈ facts.functions, P (.definition .function f.name facts.path)) ∨
      (∃ target ∈ resolved, P (.imports facts.path target)) ∨
      (∃ p ∈ facts.callerPairs, P (.call p.1 p.2 facts.path)) ∨
      ∃ c ∈ facts.calls, P (.use c.callee facts.path) := by
  simp only [upserts, List.cons_append, List.exists_mem_cons_iff, List.mem_append, or_and_right,
    exists_or, exists_ofClass, exists_ofCall, List.mem_map, exists_exists_and_eq_and, or_assoc]

/-- A planned batch holds the upserts of its plan. -/
theorem mem_batch {op : Upsert} :
    op ∈ (batch facts resolved).ops ↔ op ∈ upserts facts resolved := by
  rw [batch, (Batch.remembers_empty facts.path).mem_pushAll, or_iff_right]
  simp [Batch.empty]

/-- The nodes of a file, by kind. Only the name is known of a class that is inherited from. -/
def nodesOf (facts : FileFacts) (resolved : List String) : NodeLabel → List NodeKey
  | .file => .file facts.path :: resolved.map .file
  | .function => facts.functionMentions.map fun name => .function name facts.path
  | .classType => facts.classes.map (fun c => .class c.name facts.path)
      ++ facts.basePairs.map fun p => .class p.2 Upsert.unknownFile

/-- The links of a file, by kind. -/
def linksOf (facts : FileFacts) (resolved : List String) : Relation → List Link
  | .definedIn =>
    facts.functions.map (fun f => ⟨.function f.name facts.path, .definedIn, .file facts.path⟩)
      ++ facts.classes.map fun c => ⟨.class c.name facts.path, .definedIn, .file facts.path⟩
  | .imports => resolved.map fun target => ⟨.file facts.path, .imports, .file target⟩
  | .calls => facts.callerPairs.map fun p =>
      ⟨.function p.1 facts.path, .calls, .function p.2 facts.path⟩
  | .usedIn => facts.calls.map fun c =>
      ⟨.function c.callee facts.path, .usedIn, .file facts.path⟩
  | .inherits => facts.basePairs.map fun p =>
      ⟨.class p.1 facts.path, .inherits, .class p.2 Upsert.unknownFile⟩

/-- **The nodes of a file** are those of its upserts. -/
theorem mem_nodesOf {k : NodeKey} {label : NodeLabel} :
    k ∈ nodesOf facts resolved label ↔
      k.label = label ∧ ∃ op ∈ upserts facts resolved, k ∈ op.nodes := by
  rw [exists_upsert]
  -- a node of another kind is neither listed nor has it the label
  cases k <;> cases label <;>
    simp [nodesOf, FileFacts.functionMentions, NodeKey.label, Upsert.nodes, DefinitionKind.node]
  all_goals grind

/-- **The links of a file** are those of its upserts. -/
theorem mem_linksOf {l : Link} {relation : Relation} :
    l ∈ linksOf facts resolved relation ↔
      l.relation = relation ∧ ∃ op ∈ upserts facts resolved, op.link? = some l := by
  rw [exists_upsert]
  obtain ⟨source, relation', target⟩ := l
  cases relation <;> cases relation' <;>
    simp [linksOf, Upsert.link?, Upsert.relation?, Upsert.nodes, DefinitionKind.node, or_comm]

/-- The only name that is given is that of the file. -/
theorem file_mem_upserts_iff {path name : String} :
    .file path name ∈ upserts facts resolved ↔ facts.path = path ∧ facts.name = name := by
  have hmem : .file path name ∈ upserts facts resolved
      ↔ ∃ op ∈ upserts facts resolved, op = .file path name := by simp
  rw [hmem, exists_upsert]
  simp

end Plan

/-! ## Writing files -/

/-- What is written is the batch of a plan, and the answer is the number of its upserts. -/
theorem Backend.value_write {σ : Type} (backend : Backend σ) (facts : FileFacts)
    (resolved : List String) (s : σ) :
    (backend.write facts resolved s).value
      = ((backend.apply (Plan.batch facts resolved) s).value.1.map
          fun _ => (Plan.batch facts resolved).size,
        (backend.apply (Plan.batch facts resolved) s).value.2) := by
  simp only [write, Logged.value_bind]
  split
  · next heq =>
    rw [heq]
    rfl
  · next heq =>
    rw [heq]
    rfl

namespace Store

/-- Writes the facts of files one after the other, each with the files that it imports. -/
def writeAll (s : Store) (files : List (FileFacts × List String)) : Store :=
  files.foldl (fun s f => (Backend.memory.write f.1 f.2 s).value.2) s

variable {files : List (FileFacts × List String)}

/-- `Store.writeAll` is the history of the calls planned for the files. -/
theorem writeAll_eq (s : Store) : s.writeAll files = s.performAll (Plan.calls files) := by
  rw [performAll, Plan.calls, List.foldl_map]
  rfl

/-- `Store.writeAll` writes the last file into what the files before it left. -/
theorem writeAll_concat (s : Store) (f : FileFacts × List String) :
    s.writeAll (files ++ [f]) = (s.writeAll files).apply (Plan.batch f.1 f.2) := by
  rw [writeAll, List.foldl_append]
  rfl

/-- What `writeAll` builds is `Consistent`. -/
theorem consistent_writeAll : (empty.writeAll files).Consistent := by
  rw [writeAll_eq]
  exact consistent_performAll consistent_empty _

/-- What is true of some upsert that is made is true of some upsert of a file. -/
theorem exists_mem_allOps {P : Upsert → Prop} :
    (∃ op ∈ Call.allOps (Plan.calls files), P op) ↔
      ∃ f ∈ files, ∃ op ∈ Plan.upserts f.1 f.2, P op := by
  simp only [Plan.mem_allOps_calls, Plan.mem_batch]
  constructor
  · rintro ⟨op, ⟨f, hf, hop⟩, hP⟩
    exact ⟨f, hf, op, hop, hP⟩
  · rintro ⟨f, hf, op, hop, hP⟩
    exact ⟨op, ⟨f, hf, hop⟩, hP⟩

/-- **The nodes of a graph that was written.** -/
theorem containsNode_writeAll {k : NodeKey} :
    (empty.writeAll files).containsNode k ↔ ∃ f ∈ files, k ∈ Plan.nodesOf f.1 f.2 k.label := by
  rw [writeAll_eq, containsNode_performAll, or_iff_left (containsNode_empty k), exists_mem_allOps]
  simp only [Plan.mem_nodesOf, true_and]

/-- **The links of a graph that was written.** -/
theorem hasLink_writeAll {l : Link} :
    (empty.writeAll files).hasLink l ↔ ∃ f ∈ files, l ∈ Plan.linksOf f.1 f.2 l.relation := by
  rw [writeAll_eq, hasLink_performAll consistent_empty, or_iff_left (hasLink_empty l),
    exists_mem_allOps]
  simp only [Plan.mem_linksOf, true_and]

/-- After `writeAll` a file has the last name that was planned for it, if any was. -/
theorem fileName?_writeAll (path : String) :
    (empty.writeAll files).fileName? path
      = Upsert.lastName? path (Call.allOps (Plan.calls files)) := by
  rw [writeAll_eq, fileName?_performAll consistent_empty, fileName?_empty, Option.or_none]

/-- A name is one that a file with that path was given. -/
theorem exists_of_fileName?_writeAll {path name : String}
    (h : (empty.writeAll files).fileName? path = some name) :
    ∃ f ∈ files, f.1.path = path ∧ f.1.name = name := by
  rw [fileName?_writeAll] at h
  obtain ⟨f, hf, op, hop, rfl⟩ :=
    exists_mem_allOps.1 ⟨_, Upsert.mem_of_lastName?_eq_some h, rfl⟩
  exact ⟨f, hf, Plan.file_mem_upserts_iff.1 hop⟩

/-- **The files that were written are those that have a name.** -/
theorem isSome_fileName?_writeAll {path : String} :
    ((empty.writeAll files).fileName? path).isSome ↔ ∃ f ∈ files, f.1.path = path := by
  constructor
  · intro h
    obtain ⟨name, hname⟩ := Option.isSome_iff_exists.1 h
    obtain ⟨f, hf, hpath, -⟩ := exists_of_fileName?_writeAll hname
    exact ⟨f, hf, hpath⟩
  · rintro ⟨f, hf, rfl⟩
    rw [fileName?_writeAll, Option.isSome_iff_ne_none, Ne, Upsert.lastName?_eq_none_iff]
    intro hnone
    obtain ⟨op, hop, rfl⟩ := exists_mem_allOps.2
      ⟨f, hf, _, Plan.file_mem_upserts_iff.2 ⟨rfl, rfl⟩, rfl⟩
    exact hnone _ hop

end Store

end CodeGraph
