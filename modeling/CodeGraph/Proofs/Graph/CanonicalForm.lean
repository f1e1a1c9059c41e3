import CodeGraph.Graph.Plan
import CodeGraph.Proofs.Graph.History

/-! # Snapshots are canonical forms

Two graphs have the same snapshot exactly if nothing tells them apart: neither a node, nor the name
of a file, nor a link (`snapshot_eq_iff`). The numbers of the nodes and the order of the edges are
not seen in a snapshot, because sorting forgets them and because different nodes have different
properties: the properties of a node give back its key, and for a file its name.

Since the history decides what is seen, it decides the snapshot: histories with the same upserts and
the same last names lead to the same snapshot, in whatever order the upserts were made. -/

namespace CodeGraph

/-! ## Properties of nodes -/

/-- The properties of a node give back its key, and the name if it is a file. -/
theorem SnapshotNode.key_eq_of_ofNode {m n : Node} (h : ofNode m = ofNode n) :
    m.key = n.key ∧ ∀ path, m.key = .file path → m.name = n.name := by
  obtain ⟨key, name⟩ := m
  obtain ⟨key', name'⟩ := n
  cases key <;> cases key' <;> cases name <;> cases name' <;> simp_all [ofNode]

namespace Store

variable {s t : Store}

/-- The name of a node, which only a file can have. -/
def nameOf? (s : Store) : NodeKey → Option String
  | .file path => s.fileName? path
  | _ => none

/-- The properties of a node follow from its key and what is known of its name. -/
theorem ofNode_eq (h : s.Consistent) {n : Node} (hn : n ∈ s.nodes) :
    SnapshotNode.ofNode n = .ofNode ⟨n.key, s.nameOf? n.key⟩ := by
  obtain ⟨i, hi⟩ := Array.getElem?_of_mem hn
  obtain ⟨key, name⟩ := n
  cases key with
  | file path =>
    have hindex := (h.index_iff (.file path) i).2 ⟨_, hi, rfl⟩
    have hname : s.nameOf? (.file path) = name := by
      rw [nameOf?, fileName?_eq, hindex, Option.bind_some, hi]
      rfl
    rw [hname]
  | function name file => rfl
  | «class» name file => rfl

/-- The nodes as they are exported: one for each key the store contains, with the name it has
there. -/
theorem mem_map_ofNode (h : s.Consistent) (x : SnapshotNode) :
    x ∈ s.nodes.toList.map .ofNode ↔
      ∃ k, s.containsNode k ∧ x = .ofNode ⟨k, s.nameOf? k⟩ := by
  rw [List.mem_map]
  constructor
  · rintro ⟨n, hn, rfl⟩
    rw [Array.mem_toList_iff] at hn
    exact ⟨n.key, (containsNode_iff h n.key).2 ⟨n, hn, rfl⟩, ofNode_eq h hn⟩
  · rintro ⟨k, hk, rfl⟩
    obtain ⟨n, hn, rfl⟩ := (containsNode_iff h k).1 hk
    exact ⟨n, Array.mem_toList_iff.2 hn, ofNode_eq h hn⟩

/-- No two nodes of a snapshot have the same properties. -/
theorem map_ofNode_nodup (h : s.Consistent) :
    (s.nodes.toList.map SnapshotNode.ofNode).Nodup := by
  refine (keys_nodup h).of_map.map_on fun m hm n hn heq => ?_
  exact List.inj_on_of_nodup_map (keys_nodup h) hm hn (SnapshotNode.key_eq_of_ofNode heq).1

/-! ## Graphs that look alike -/

/-- **Nothing tells two graphs apart** that can be asked of single nodes, names and links. -/
structure Alike (s t : Store) : Prop where
  nodes : ∀ k, s.containsNode k ↔ t.containsNode k
  names : ∀ path, s.fileName? path = t.fileName? path
  links : ∀ l, s.hasLink l ↔ t.hasLink l

/-- Stores that are `Alike` give every node the same name, not only the files. -/
theorem Alike.nameOf? (h : Alike s t) (k : NodeKey) : s.nameOf? k = t.nameOf? k := by
  cases k with
  | file path => exact h.names path
  | function name file => rfl
  | «class» name file => rfl

/-- Only a file that is there has a name. -/
theorem fileName?_eq_none {path : String} (h : ¬ s.containsNode (.file path)) :
    s.fileName? path = none := by
  cases hi : s.index[NodeKey.file path]? with
  | none => rw [fileName?_eq, hi, Option.bind_none]
  | some i => exact absurd ((containsNode_iff_index s _).2 ⟨i, hi⟩) h

/-- A node of the first graph is in the second if their snapshots agree, under the same name. -/
theorem containsNode_of_snapshot_eq (hs : s.Consistent) (ht : t.Consistent)
    (h : s.snapshot = t.snapshot) {k : NodeKey} (hk : s.containsNode k) :
    t.containsNode k ∧ ∀ path, k = .file path → s.fileName? path = t.fileName? path := by
  have hmem : SnapshotNode.ofNode ⟨k, s.nameOf? k⟩ ∈ s.snapshot.nodes := by
    rw [snapshot, mem_sortedBy]
    exact (mem_map_ofNode hs _).2 ⟨k, hk, rfl⟩
  rw [h, snapshot, mem_sortedBy] at hmem
  obtain ⟨k', hk', heq⟩ := (mem_map_ofNode ht _).1 hmem
  obtain ⟨rfl, hname⟩ := SnapshotNode.key_eq_of_ofNode heq
  refine ⟨hk', ?_⟩
  rintro path rfl
  exact hname path rfl

/-- Equal snapshots mean `Alike` stores: nodes, names and links can all be read off a snapshot. -/
theorem alike_of_snapshot_eq (hs : s.Consistent) (ht : t.Consistent)
    (h : s.snapshot = t.snapshot) : Alike s t := by
  have hnodes : ∀ k, s.containsNode k ↔ t.containsNode k := fun k =>
    ⟨fun hk => (containsNode_of_snapshot_eq hs ht h hk).1,
      fun hk => (containsNode_of_snapshot_eq ht hs h.symm hk).1⟩
  refine ⟨hnodes, fun path => ?_, fun l => ?_⟩
  · by_cases hk : s.containsNode (.file path)
    · exact (containsNode_of_snapshot_eq hs ht h hk).2 path rfl
    · rw [fileName?_eq_none hk, fileName?_eq_none (fun hk' => hk ((hnodes _).2 hk'))]
  · rw [← mem_snapshot_links hs, h, mem_snapshot_links ht]

/-- `Alike` stores have equal snapshots: both lists are sorted by keys that tell everything
apart. -/
theorem snapshot_eq_of_alike (hs : s.Consistent) (ht : t.Consistent) (h : Alike s t) :
    s.snapshot = t.snapshot := by
  have hnodes : s.snapshot.nodes = t.snapshot.nodes := by
    refine (sortedBy_eq_iff SnapshotNode.sortKey_injective (map_ofNode_nodup hs)
      (map_ofNode_nodup ht)).2 fun x => ?_
    rw [mem_map_ofNode hs, mem_map_ofNode ht]
    simp only [h.nodes, h.nameOf?]
  have hlinks : s.snapshot.links = t.snapshot.links := by
    refine (sortedBy_eq_iff Link.sortKey_injective (links_nodup hs) (links_nodup ht)).2 fun l => ?_
    rw [← hasLink_iff hs, ← hasLink_iff ht]
    exact h.links l
  calc s.snapshot = ⟨s.snapshot.nodes, s.snapshot.links⟩ := rfl
    _ = t.snapshot := by rw [hnodes, hlinks]

/-- **The snapshot is a canonical form**: two stores export the same exactly when they are
`Alike`. -/
theorem snapshot_eq_iff (hs : s.Consistent) (ht : t.Consistent) :
    s.snapshot = t.snapshot ↔ Alike s t :=
  ⟨alike_of_snapshot_eq hs ht, snapshot_eq_of_alike hs ht⟩

end Store

/-! ## Histories with the same upserts -/

namespace Upsert

/-- The name `lastName?` gives was given by an upsert of the list. -/
theorem mem_of_lastName?_eq_some {path name : String} {ops : List Upsert}
    (h : lastName? path ops = some name) : .file path name ∈ ops := by
  obtain ⟨before, after, rfl, -⟩ := lastName?_eq_some_iff.1 h
  exact List.mem_append_right before (List.mem_cons_self ..)

/-- Where no file is given two names, the order of the upserts does not matter for the last ones. -/
theorem lastName?_eq_of_mem_iff {ops ops' : List Upsert} (hmem : ∀ op, op ∈ ops ↔ op ∈ ops')
    (hname : ∀ path name name', .file path name ∈ ops → .file path name' ∈ ops → name = name')
    (path : String) : lastName? path ops = lastName? path ops' := by
  cases h : lastName? path ops with
  | none =>
    rw [lastName?_eq_none_iff] at h
    exact (lastName?_eq_none_iff.2 fun name hn => h name ((hmem _).2 hn)).symm
  | some name =>
    have hn := mem_of_lastName?_eq_some h
    cases h' : lastName? path ops' with
    | none => exact absurd ((hmem _).1 hn) (lastName?_eq_none_iff.1 h' name)
    | some name' =>
      rw [hname path name name' hn ((hmem _).2 (mem_of_lastName?_eq_some h'))]

end Upsert

namespace Store

variable {s : Store} {calls calls' : List Call}

/-- Histories with the same upserts and the same last names leave `Alike` stores. -/
theorem alike_performAll (h : s.Consistent)
    (hops : ∀ op, op ∈ Call.allOps calls ↔ op ∈ Call.allOps calls')
    (hnames : ∀ path, Upsert.lastName? path (Call.allOps calls)
      = Upsert.lastName? path (Call.allOps calls')) :
    Alike (s.performAll calls) (s.performAll calls') := by
  refine ⟨fun k => ?_, fun path => ?_, fun l => ?_⟩
  · simp only [containsNode_performAll, hops]
  · rw [fileName?_performAll h, fileName?_performAll h, hnames]
  · simp only [hasLink_performAll h, hops]

/-- **The order of upserts is not seen**: calls with the same upserts and the same last names lead
to the same snapshot. -/
theorem snapshot_performAll_eq (h : s.Consistent)
    (hops : ∀ op, op ∈ Call.allOps calls ↔ op ∈ Call.allOps calls')
    (hnames : ∀ path, Upsert.lastName? path (Call.allOps calls)
      = Upsert.lastName? path (Call.allOps calls')) :
    (s.performAll calls).snapshot = (s.performAll calls').snapshot :=
  snapshot_eq_of_alike (consistent_performAll h calls) (consistent_performAll h calls')
    (alike_performAll h hops hnames)

end Store

/-! ## Batches planned for different files -/

namespace Batch

/-- `Batch.push` adds to a batch nothing but the upsert it is given. -/
theorem mem_ops_push {b : Batch} {op op' : Upsert} (h : op' ∈ (b.push op).2.ops) :
    op' ∈ b.ops ∨ op' = op := by
  rw [push] at h
  split at h
  · exact .inl h
  · exact Array.mem_push.1 h

/-- A batch holds nothing that was not put into it. -/
theorem mem_ops_pushAll {b : Batch} {ops : List Upsert} {op : Upsert}
    (h : op ∈ (b.pushAll ops).ops) : op ∈ b.ops ∨ op ∈ ops := by
  induction ops generalizing b with
  | nil => exact .inl h
  | cons op' ops ih =>
    rcases ih h with hb | hops
    · rcases mem_ops_push hb with hb | rfl
      · exact .inl hb
      · exact .inr (List.mem_cons_self ..)
    · exact .inr (List.mem_cons_of_mem op' hops)

end Batch

namespace Plan

/-- The only file that is named is the one whose facts are recorded. -/
theorem file_mem_upserts {facts : FileFacts} {resolved : List String} {path name : String}
    (h : .file path name ∈ upserts facts resolved) : path = facts.path ∧ name = facts.name := by
  simp only [upserts, List.cons_append, List.mem_cons, List.mem_append, List.mem_flatMap,
    List.mem_map, Upsert.file.injEq] at h
  rcases h with h | ((⟨c, -, hc⟩ | ⟨f, -, hf⟩) | ⟨i, -, hi⟩) | ⟨c, -, hc⟩
  · exact h
  · simp [ofClass] at hc
  · cases hf
  · cases hi
  · rw [ofCall] at hc
    split at hc <;> simp at hc

/-- A planned batch names no file but the one whose facts it is made of. -/
theorem file_mem_batch {facts : FileFacts} {resolved : List String} {path name : String}
    (h : .file path name ∈ (batch facts resolved).ops) :
    path = facts.path ∧ name = facts.name := by
  rcases Batch.mem_ops_pushAll h with h | h
  · simp [Batch.empty] at h
  · exact file_mem_upserts h

/-- The calls that write the facts of files, each with the files that it imports. -/
def calls (files : List (FileFacts × List String)) : List Store.Call :=
  files.map fun f => .apply (batch f.1 f.2)

/-- The upserts of the calls for some files are those of the batches planned for them. -/
theorem mem_allOps_calls {files : List (FileFacts × List String)} {op : Upsert} :
    op ∈ Store.Call.allOps (calls files) ↔ ∃ f ∈ files, op ∈ (batch f.1 f.2).ops := by
  simp [Store.Call.allOps, calls, Store.Call.ops]

/-- Files with different paths are named by one upsert each. -/
theorem name_eq_of_mem_allOps {files : List (FileFacts × List String)}
    (hpaths : (files.map fun f => f.1.path).Nodup) {path name name' : String}
    (h : .file path name ∈ Store.Call.allOps (calls files))
    (h' : .file path name' ∈ Store.Call.allOps (calls files)) : name = name' := by
  obtain ⟨f, hf, hop⟩ := mem_allOps_calls.1 h
  obtain ⟨f', hf', hop'⟩ := mem_allOps_calls.1 h'
  obtain ⟨hpath, rfl⟩ := file_mem_batch hop
  obtain ⟨hpath', rfl⟩ := file_mem_batch hop'
  have hff : f = f' := List.inj_on_of_nodup_map hpaths hf hf' (hpath.symm.trans hpath')
  rw [hff]

end Plan

namespace Store

/-- **A snapshot is a canonical form.** Graphs that calls lead to from the empty one have the same
snapshot exactly if nothing tells them apart. So histories with the same upserts and the same last
names give the same snapshot, and it does not matter in which order the facts of files with
different paths are written. -/
theorem snapshot_canonical :
    (∀ s t : Store, s.Reachable → t.Reachable →
      (s.snapshot = t.snapshot ↔
        (∀ k, s.containsNode k ↔ t.containsNode k) ∧
          (∀ path, s.fileName? path = t.fileName? path) ∧ ∀ l, s.hasLink l ↔ t.hasLink l)) ∧
    (∀ calls calls' : List Call,
      (∀ op, op ∈ Call.allOps calls ↔ op ∈ Call.allOps calls') →
      (∀ path, Upsert.lastName? path (Call.allOps calls)
        = Upsert.lastName? path (Call.allOps calls')) →
      (empty.performAll calls).snapshot = (empty.performAll calls').snapshot) ∧
    ∀ files files' : List (FileFacts × List String), (files.map fun f => f.1.path).Nodup →
      files.Perm files' → ∀ s : Store, s.Reachable →
      (s.performAll (Plan.calls files)).snapshot = (s.performAll (Plan.calls files')).snapshot := by
  refine ⟨fun s t hs ht => ?_, fun calls calls' hops hnames => ?_,
    fun files files' hpaths hperm s hs => ?_⟩
  · rw [snapshot_eq_iff hs.consistent ht.consistent]
    exact ⟨fun h => ⟨h.nodes, h.names, h.links⟩, fun h => ⟨h.1, h.2.1, h.2.2⟩⟩
  · exact snapshot_performAll_eq consistent_empty hops hnames
  · have hops : ∀ op, op ∈ Call.allOps (Plan.calls files)
        ↔ op ∈ Call.allOps (Plan.calls files') := fun op => by
      simp only [Plan.mem_allOps_calls, hperm.mem_iff]
    exact snapshot_performAll_eq hs.consistent hops
      (Upsert.lastName?_eq_of_mem_iff hops fun _ _ _ => Plan.name_eq_of_mem_allOps hpaths)

/-- A graph with one file differs from the empty one; an import and a naming can be made in either
order and repeated; and of two files that import each other either can be written first. -/
theorem snapshot_canonical_two_files :
    (empty.performAll [.merge (.file "a.py" "a.py")]).snapshot ≠ empty.snapshot ∧
      (empty.performAll [.merge (.imports "a.py" "b.py"), .merge (.file "b.py" "b.py"),
          .merge (.imports "a.py" "b.py")]).snapshot
        = (empty.performAll [.merge (.file "b.py" "b.py"),
          .merge (.imports "a.py" "b.py")]).snapshot ∧
      (empty.performAll (Plan.calls [(.empty "a.py" .python, ["b.py"]),
          (.empty "b.py" .python, ["a.py"])])).snapshot
        = (empty.performAll (Plan.calls [(.empty "b.py" .python, ["a.py"]),
          (.empty "a.py" .python, ["b.py"])])).snapshot := by
  refine ⟨fun heq => ?_, snapshot_canonical.2.1 _ _ (fun op => ?_) (fun path => ?_),
    snapshot_canonical.2.2 _ _ (by decide) (.swap ..) _ reachable_empty⟩
  · have hnodes := ((snapshot_canonical.1 _ _ ⟨_, rfl⟩ reachable_empty).1 heq).1
    refine containsNode_empty (.file "a.py") ((hnodes _).1 ?_)
    rw [containsNode_performAll]
    exact .inl ⟨.file "a.py" "a.py", by simp [Call.allOps, Call.ops], by simp [Upsert.nodes]⟩
  · simp only [Call.allOps, List.flatMap_cons, Call.ops, List.flatMap_nil, List.append_nil,
      List.cons_append, List.nil_append, List.mem_cons, List.not_mem_nil, or_false,
      or_iff_right_iff_imp]
    exact .inr
  · simp [Call.allOps, Call.ops, Upsert.lastName?, Upsert.nameFor?]

end Store

end CodeGraph
