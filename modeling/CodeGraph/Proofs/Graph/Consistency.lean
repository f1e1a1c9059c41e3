import CodeGraph.Graph.Store
import Mathlib.Data.List.Nodup
import Std.Data.HashMap.Lemmas
import Std.Data.HashSet.Lemmas

/-! # The graph in memory agrees with itself

A `Store` keeps its graph twice: once as nodes and edges in the order in which they came, and once
as an index of the nodes and a set of the edges. `Store.Consistent` says that the two say the same.
It holds of the empty graph, each upsert keeps it, and so it holds after any calls
(`consistent_performAll`).

The upserts are taken apart as the definitions are: first what `mergeNode` does to each part of the
store, then `mergeEdge` and the naming of a file, and last `merge`. -/

namespace CodeGraph

deriving instance ReflBEq, LawfulBEq for NodeKey
deriving instance ReflBEq, LawfulBEq for Relation
deriving instance ReflBEq, LawfulBEq for Edge

/-- An upsert names a file, or it has a link, whose ends are its nodes. -/
theorem Upsert.file_or_link (op : Upsert) :
    (∃ path name, op = .file path name) ∨
      ∃ l, op.link? = some l ∧ op.nodes = [l.source, l.target] := by
  cases op with
  | file path name => exact .inl ⟨path, name, rfl⟩
  | _ => exact .inr ⟨_, rfl, rfl⟩

namespace Store

/-- **The parts of a store agree.** -/
structure Consistent (s : Store) : Prop where
  /-- The index gives for a key exactly the number of the node with that key. -/
  index_iff : ∀ (k : NodeKey) (i : Nat),
    s.index[k]? = some i ↔ ∃ n, s.nodes[i]? = some n ∧ n.key = k
  /-- The set of links holds exactly the edges. -/
  linked_iff : ∀ e, e ∈ s.linked ↔ e ∈ s.edges
  /-- No edge is there twice. -/
  edges_nodup : s.edges.toList.Nodup
  /-- Both ends of an edge are nodes. -/
  ends : ∀ e ∈ s.edges, e.source < s.nodes.size ∧ e.target < s.nodes.size

/-- `Store.empty` is `Consistent`: there is nothing to index and nothing to link. -/
theorem consistent_empty : Consistent empty where
  index_iff k i := by simp [empty]
  linked_iff e := by simp [empty]
  edges_nodup := by simp [empty]
  ends e he := by simp [empty] at he

namespace Consistent

variable {s : Store} {k k' : NodeKey} {i : Nat}

/-- An index entry of a `Consistent` store points into `nodes`. -/
theorem index_lt (h : s.Consistent) (hi : s.index[k]? = some i) : i < s.nodes.size := by
  obtain ⟨n, hn, -⟩ := (h.index_iff k i).1 hi
  exact (Array.getElem?_eq_some_iff.1 hn).1

/-- A node has one key. -/
theorem key_eq (h : s.Consistent) (hi : s.index[k]? = some i) (hi' : s.index[k']? = some i) :
    k = k' := by
  obtain ⟨n, hn, rfl⟩ := (h.index_iff k i).1 hi
  obtain ⟨n', hn', rfl⟩ := (h.index_iff k' i).1 hi'
  rw [hn] at hn'
  rw [Option.some.inj hn']

/-- The node an index entry points at carries the key it was found under. -/
theorem keyAt_of_index (h : s.Consistent) (hi : s.index[k]? = some i) : s.keyAt i = k := by
  obtain ⟨n, hn, rfl⟩ := (h.index_iff k i).1 hi
  rw [keyAt, Array.getD_eq_getD_getElem?, hn, Option.getD_some]

/-- Every position of `nodes` is indexed by the key that stands there, so no key stands twice. -/
theorem index_keyAt (h : s.Consistent) (hi : i < s.nodes.size) :
    s.index[s.keyAt i]? = some i := by
  refine (h.index_iff _ _).2 ⟨s.nodes[i], Array.getElem?_eq_getElem hi, ?_⟩
  rw [keyAt, Array.getD_eq_getD_getElem?, Array.getElem?_eq_getElem hi, Option.getD_some]

end Consistent

/-! ## Adding a node -/

section MergeNode

variable {s : Store} {k : NodeKey}

/-- `mergeNode` of a key that is indexed returns its position and changes nothing. -/
theorem mergeNode_of_some {i : Nat} (h : s.index[k]? = some i) : s.mergeNode k = (i, s) := by
  rw [mergeNode, h]

/-- `mergeNode` of a new key pushes one bare node and indexes it at the end. -/
theorem mergeNode_of_none (h : s.index[k]? = none) :
    s.mergeNode k = (s.nodes.size, { s with
      nodes := s.nodes.push { key := k }, index := s.index.insert k s.nodes.size }) := by
  rw [mergeNode, h]

/-- `mergeNode` never touches the set of edges already drawn. -/
@[simp] theorem linked_mergeNode (s : Store) (k : NodeKey) :
    (s.mergeNode k).2.linked = s.linked := by
  cases h : s.index[k]? with
  | none => rw [mergeNode_of_none h]
  | some i => rw [mergeNode_of_some h]

/-- Afterwards the index knows the node, and all else as before. -/
theorem index_mergeNode (s : Store) (k k' : NodeKey) :
    (s.mergeNode k).2.index[k']? = if k = k' then some (s.mergeNode k).1 else s.index[k']? := by
  cases h : s.index[k]? with
  | none =>
    rw [mergeNode_of_none h, Std.HashMap.getElem?_insert]
    simp only [beq_iff_eq]
  | some i =>
    rw [mergeNode_of_some h]
    split
    · next hk => rw [← hk, h]
    · rfl

/-- After `mergeNode k` the key `k` is indexed at the position `mergeNode` returned. -/
theorem index_mergeNode_self (s : Store) (k : NodeKey) :
    (s.mergeNode k).2.index[k]? = some (s.mergeNode k).1 := by
  rw [index_mergeNode, if_pos rfl]

/-- What the index knew it still knows. -/
theorem index_mergeNode_of_some {k' : NodeKey} {i : Nat} (h : s.index[k']? = some i) :
    (s.mergeNode k).2.index[k']? = some i := by
  rw [index_mergeNode]
  split
  · next hk =>
    subst hk
    rw [mergeNode_of_some h]
  · exact h

/-- `mergeNode` keeps a store `Consistent`, whether the key is new or not. -/
theorem consistent_mergeNode (h : s.Consistent) (k : NodeKey) : (s.mergeNode k).2.Consistent := by
  cases hk : s.index[k]? with
  | some i => rwa [mergeNode_of_some hk]
  | none =>
    rw [mergeNode_of_none hk]
    refine ⟨fun k' i => ?_, h.linked_iff, h.edges_nodup, fun e he => ?_⟩
    · -- only the new number can be that of the new key, and no old node has that key
      rw [Std.HashMap.getElem?_insert, Array.getElem?_push]
      simp only [beq_iff_eq]
      by_cases hkk : k = k'
      · subst hkk
        rw [if_pos rfl]
        constructor
        · intro hi
          rw [← Option.some.inj hi, if_pos rfl]
          exact ⟨_, rfl, rfl⟩
        · rintro ⟨n, hn, hkey⟩
          split at hn
          · next hi => rw [hi]
          · have := (h.index_iff k i).2 ⟨n, hn, hkey⟩
            rw [hk] at this
            cases this
      · rw [if_neg hkk]
        constructor
        · intro hi
          rw [if_neg (Nat.ne_of_lt (h.index_lt hi))]
          exact (h.index_iff k' i).1 hi
        · rintro ⟨n, hn, hkey⟩
          split at hn
          · cases hn
            exact absurd hkey hkk
          · exact (h.index_iff k' i).2 ⟨n, hn, hkey⟩
    · obtain ⟨hs, ht⟩ := h.ends e he
      rw [Array.size_push]
      omega

end MergeNode

/-! ## Adding an edge -/

section MergeEdge

variable {s : Store} {e e' : Edge}

/-- `mergeEdge` of an edge already drawn changes nothing. -/
theorem mergeEdge_of_mem (h : e ∈ s.linked) : s.mergeEdge e = s := by
  rw [mergeEdge, if_pos (Std.HashSet.contains_iff_mem.2 h)]

/-- `mergeEdge` of a new edge pushes it and remembers it in `linked`. -/
theorem mergeEdge_of_not_mem (h : e ∉ s.linked) :
    s.mergeEdge e = { s with edges := s.edges.push e, linked := s.linked.insert e } := by
  rw [mergeEdge, if_neg (fun hc => h (Std.HashSet.contains_iff_mem.1 hc))]

/-- `mergeEdge` never touches the nodes. -/
@[simp] theorem nodes_mergeEdge (s : Store) (e : Edge) : (s.mergeEdge e).nodes = s.nodes := by
  by_cases h : e ∈ s.linked
  · rw [mergeEdge_of_mem h]
  · rw [mergeEdge_of_not_mem h]

/-- `mergeEdge` never touches the index. -/
@[simp] theorem index_mergeEdge (s : Store) (e : Edge) : (s.mergeEdge e).index = s.index := by
  by_cases h : e ∈ s.linked
  · rw [mergeEdge_of_mem h]
  · rw [mergeEdge_of_not_mem h]

/-- Afterwards the edge is linked, and all else as before. -/
theorem mem_linked_mergeEdge : e' ∈ (s.mergeEdge e).linked ↔ e' ∈ s.linked ∨ e' = e := by
  by_cases h : e ∈ s.linked
  · rw [mergeEdge_of_mem h]
    constructor
    · exact Or.inl
    · rintro (he | rfl)
      exacts [he, h]
  · rw [mergeEdge_of_not_mem h, Std.HashSet.mem_insert, beq_iff_eq, or_comm, eq_comm]

/-- `mergeEdge` keeps a store `Consistent` as long as both ends are positions of `nodes`. -/
theorem consistent_mergeEdge (h : s.Consistent) (hsource : e.source < s.nodes.size)
    (htarget : e.target < s.nodes.size) : (s.mergeEdge e).Consistent := by
  by_cases he : e ∈ s.linked
  · rwa [mergeEdge_of_mem he]
  · have hnew : e ∉ s.edges := fun hc => he ((h.linked_iff e).2 hc)
    rw [mergeEdge_of_not_mem he]
    refine ⟨h.index_iff, fun e' => ?_, ?_, fun e' he' => ?_⟩
    · rw [Std.HashSet.mem_insert, Array.mem_push, beq_iff_eq, h.linked_iff, or_comm, eq_comm]
    · rw [Array.toList_push]
      refine List.Nodup.append h.edges_nodup (List.nodup_singleton e) ?_
      intro e' he' hmem
      rw [List.mem_singleton] at hmem
      exact hnew (hmem ▸ Array.mem_toList_iff.1 he')
    · rcases Array.mem_push.1 he' with he' | rfl
      · exact h.ends e' he'
      · exact ⟨hsource, htarget⟩

end MergeEdge

/-! ## Naming a node -/

/-- Gives a node a name. -/
def nameNode (s : Store) (i : Nat) (name : String) : Store :=
  { s with nodes := s.nodes.modify i fun n => { n with name := some name } }

/-- `mergeFile` is a `mergeNode` of the file's key followed by `nameNode` at its position. -/
theorem mergeFile_eq (s : Store) (path name : String) :
    s.mergeFile path name
      = (s.mergeNode (.file path)).2.nameNode (s.mergeNode (.file path)).1 name := rfl

/-- Reading `nodes` after `nameNode i`: position `i` has the new name, every other one is as it
was. -/
theorem nodes_nameNode (s : Store) (i j : Nat) (name : String) :
    (s.nameNode i name).nodes[j]?
      = if i = j then (s.nodes[j]?).map fun n => { n with name := some name }
        else s.nodes[j]? :=
  Array.getElem?_modify

/-- A name changes no key. -/
theorem key_nameNode (s : Store) (i j : Nat) (name : String) :
    ((s.nameNode i name).nodes[j]?).map Node.key = (s.nodes[j]?).map Node.key := by
  rw [nodes_nameNode]
  split
  · rw [Option.map_map]
    rfl
  · rfl

/-- `nameNode` keeps a store `Consistent`: keys, index and edges do not mention names. -/
theorem consistent_nameNode {s : Store} (h : s.Consistent) (i : Nat) (name : String) :
    (s.nameNode i name).Consistent := by
  refine ⟨fun k j => ?_, h.linked_iff, h.edges_nodup, fun e he => ?_⟩
  · rw [← Option.map_eq_some_iff, key_nameNode, Option.map_eq_some_iff]
    exact h.index_iff k j
  · rw [nameNode, Array.size_modify]
    exact h.ends e he

/-! ## Upserts -/

/-- `mergeLink` keeps a store `Consistent`: both ends are merged before the edge is drawn. -/
theorem consistent_mergeLink {s : Store} (h : s.Consistent) (l : Link) :
    (s.mergeLink l).Consistent := by
  have h₁ := consistent_mergeNode h l.source
  have h₂ := consistent_mergeNode h₁ l.target
  refine consistent_mergeEdge h₂ ?_ ?_
  · exact h₂.index_lt (index_mergeNode_of_some (index_mergeNode_self s l.source))
  · exact h₂.index_lt (index_mergeNode_self _ l.target)

/-- `mergeFile` keeps a store `Consistent`. -/
theorem consistent_mergeFile {s : Store} (h : s.Consistent) (path name : String) :
    (s.mergeFile path name).Consistent := by
  rw [mergeFile_eq]
  exact consistent_nameNode (consistent_mergeNode h _) _ name

/-- An `Upsert` that asks for a link is merged by `mergeLink`. -/
theorem merge_of_link {s : Store} {op : Upsert} {l : Link} (h : op.link? = some l) :
    s.merge op = s.mergeLink l := by
  cases op <;> cases h <;> rfl

/-- **One step**: an upsert keeps the parts of a store in agreement. -/
theorem consistent_merge {s : Store} (h : s.Consistent) (op : Upsert) :
    (s.merge op).Consistent := by
  obtain ⟨path, name, rfl⟩ | ⟨l, hl, -⟩ := op.file_or_link
  · exact consistent_mergeFile h path name
  · rw [merge_of_link hl]
    exact consistent_mergeLink h l

/-! ## Calls -/

/-- Makes upserts one after the other. -/
def mergeAll (s : Store) (ops : List Upsert) : Store := ops.foldl merge s

/-- Merging no upserts changes nothing. -/
@[simp] theorem mergeAll_nil (s : Store) : s.mergeAll [] = s := rfl

/-- `mergeAll` merges the head first and the rest into its result. -/
@[simp] theorem mergeAll_cons (s : Store) (op : Upsert) (ops : List Upsert) :
    s.mergeAll (op :: ops) = (s.merge op).mergeAll ops := rfl

/-- Merging a concatenation is merging the two lists one after the other. -/
theorem mergeAll_append (s : Store) (ops ops' : List Upsert) :
    s.mergeAll (ops ++ ops') = (s.mergeAll ops).mergeAll ops' :=
  List.foldl_append

/-- **A whole run**: upserts keep the parts of a store in agreement. -/
theorem consistent_mergeAll {s : Store} (h : s.Consistent) (ops : List Upsert) :
    (s.mergeAll ops).Consistent := by
  induction ops generalizing s with
  | nil => exact h
  | cons op ops ih => exact ih (consistent_merge h op)

/-- The same graph with another number of batches. -/
def withBatches (s : Store) (n : Nat) : Store := { s with batches := n }

/-- The batch counter is a frame for `mergeNode`: setting it before or after is the same. -/
theorem mergeNode_withBatches (s : Store) (n : Nat) (k : NodeKey) :
    (s.withBatches n).mergeNode k = ((s.mergeNode k).1, (s.mergeNode k).2.withBatches n) := by
  cases h : s.index[k]? with
  | none =>
    rw [mergeNode_of_none h, mergeNode_of_none (show (s.withBatches n).index[k]? = none from h)]
    rfl
  | some i =>
    rw [mergeNode_of_some h, mergeNode_of_some (show (s.withBatches n).index[k]? = some i from h)]

/-- The batch counter is a frame for `mergeEdge`. -/
theorem mergeEdge_withBatches (s : Store) (n : Nat) (e : Edge) :
    (s.withBatches n).mergeEdge e = (s.mergeEdge e).withBatches n := by
  by_cases h : e ∈ s.linked
  · rw [mergeEdge_of_mem h, mergeEdge_of_mem (show e ∈ (s.withBatches n).linked from h)]
  · rw [mergeEdge_of_not_mem h, mergeEdge_of_not_mem (show e ∉ (s.withBatches n).linked from h)]
    rfl

/-- How many batches there were makes no difference to an upsert. -/
theorem merge_withBatches (s : Store) (n : Nat) (op : Upsert) :
    (s.withBatches n).merge op = (s.merge op).withBatches n := by
  obtain ⟨path, name, rfl⟩ | ⟨l, hl, -⟩ := op.file_or_link
  · simp only [merge, mergeFile_eq, mergeNode_withBatches]
    rfl
  · simp only [merge_of_link hl, mergeLink, mergeNode_withBatches, mergeEdge_withBatches]

/-- The batch counter is a frame for a whole list of upserts, by induction with one step each. -/
theorem mergeAll_withBatches (s : Store) (n : Nat) (ops : List Upsert) :
    (s.withBatches n).mergeAll ops = (s.mergeAll ops).withBatches n := by
  induction ops generalizing s with
  | nil => rfl
  | cons op ops ih => rw [mergeAll_cons, merge_withBatches, ih, mergeAll_cons]

/-- A call that changes a graph. -/
inductive Call where
  /-- A single upsert is made. -/
  | merge (op : Upsert)
  /-- A batch is applied. -/
  | apply (batch : Batch)

/-- The upserts of a call. -/
def Call.ops : Call → List Upsert
  | merge op => [op]
  | apply batch => batch.ops.toList

/-- The upserts of calls one after the other. -/
def Call.allOps (calls : List Call) : List Upsert := calls.flatMap Call.ops

/-- The upserts of a history are those of its first call followed by those of the rest. -/
theorem Call.allOps_cons (c : Call) (calls : List Call) :
    Call.allOps (c :: calls) = c.ops ++ Call.allOps calls :=
  List.flatMap_cons

/-- The graph after a call. -/
def perform (s : Store) : Call → Store
  | .merge op => s.merge op
  | .apply batch => s.apply batch

/-- The graph after calls one after the other. -/
def performAll (s : Store) (calls : List Call) : Store := calls.foldl perform s

/-- `performAll` performs the head first and the rest on its result. -/
theorem performAll_cons (s : Store) (c : Call) (calls : List Call) :
    s.performAll (c :: calls) = (s.perform c).performAll calls := rfl

/-- Performing a concatenation is performing the two histories one after the other. -/
theorem performAll_append (s : Store) (calls calls' : List Call) :
    s.performAll (calls ++ calls') = (s.performAll calls).performAll calls' :=
  List.foldl_append

/-- A graph that calls can lead to from the empty one. -/
def Reachable (s : Store) : Prop := ∃ calls, s = empty.performAll calls

/-- `Store.apply` merges the batch's upserts in order and counts one more batch. -/
theorem apply_eq (s : Store) (b : Batch) :
    s.apply b = (s.mergeAll b.ops.toList).withBatches ((s.mergeAll b.ops.toList).batches + 1) := by
  rw [apply, mergeAll, ← Array.foldl_toList]
  rfl

/-- A `Call`, whichever it is, merges its `ops` and at most moves the batch counter. -/
theorem perform_eq (s : Store) (c : Call) :
    ∃ n, s.perform c = (s.mergeAll c.ops).withBatches n := by
  cases c with
  | merge op => exact ⟨(s.merge op).batches, rfl⟩
  | apply b => exact ⟨_, apply_eq s b⟩

/-- **Calls make their upserts**: the graph after calls is the graph after all their upserts,
whether these were made one by one or in batches. -/
theorem performAll_eq (s : Store) (calls : List Call) :
    ∃ n, s.performAll calls = (s.mergeAll (Call.allOps calls)).withBatches n := by
  induction calls generalizing s with
  | nil => exact ⟨s.batches, rfl⟩
  | cons c calls ih =>
    obtain ⟨m, hm⟩ := perform_eq s c
    obtain ⟨n, hn⟩ := ih (s.perform c)
    refine ⟨n, ?_⟩
    rw [hm, mergeAll_withBatches] at hn
    rw [performAll_cons, hm, hn, Call.allOps_cons, mergeAll_append]
    rfl

/-- Every history keeps a store `Consistent`, by induction on the calls. -/
theorem consistent_performAll {s : Store} (h : s.Consistent) (calls : List Call) :
    (s.performAll calls).Consistent := by
  obtain ⟨n, hn⟩ := performAll_eq s calls
  rw [hn]
  exact ⟨(consistent_mergeAll h _).index_iff, (consistent_mergeAll h _).linked_iff,
    (consistent_mergeAll h _).edges_nodup, (consistent_mergeAll h _).ends⟩

/-- The invariant of every store the program can build: `Reachable` gives `Consistent`. -/
theorem Reachable.consistent {s : Store} (h : s.Reachable) : s.Consistent := by
  obtain ⟨calls, rfl⟩ := h
  exact consistent_performAll consistent_empty calls

/-- `Store.empty` is `Reachable`, by the empty history. -/
theorem reachable_empty : Reachable empty := ⟨[], rfl⟩

end Store

end CodeGraph
