import CodeGraph.Proofs.Graph.Consistency
import CodeGraph.Proofs.Graph.Sorting
import Mathlib.Algebra.BigOperators.Group.List.Lemmas
import Mathlib.Algebra.Ring.Nat

/-! # What is seen of a graph does not depend on where one looks

Some questions about a graph are answered from the index and the set of links, others from the nodes
and edges themselves. In a consistent store both give the same answer: a link is found by
`Store.hasLink` exactly if it is one of `Store.links`, the totals add up to the numbers of nodes and
edges, and the sorted links of one kind are what a snapshot holds of that kind. -/

namespace CodeGraph

deriving instance ReflBEq, LawfulBEq for NodeLabel

/-! ## Totals -/

/-- Summing over `kinds` the indicator of being `a` counts the occurrences of `a`. -/
theorem sum_ite_beq {κ : Type} [BEq κ] [LawfulBEq κ] (a : κ) (kinds : List κ) :
    (kinds.map fun k => if a == k then 1 else 0).sum = kinds.count a := by
  induction kinds with
  | nil => rfl
  | cons k kinds ih =>
    rw [List.map_cons, List.sum_cons, ih, List.count_cons, BEq.comm, Nat.add_comm]

/-- **Nothing is counted twice or left out**: the numbers of members of each kind add up to the
length of the list, if every kind is listed once. -/
theorem sum_length_filter {α κ : Type} [BEq κ] [LawfulBEq κ] (kind : α → κ) {kinds : List κ}
    (hnodup : kinds.Nodup) (hall : ∀ a, kind a ∈ kinds) (xs : List α) :
    (kinds.map fun k => (xs.filter fun a => kind a == k).length).sum = xs.length := by
  induction xs with
  | nil => simp
  | cons a xs ih =>
    have hstep : ∀ k, ((a :: xs).filter fun a => kind a == k).length
        = (if kind a == k then 1 else 0) + (xs.filter fun a => kind a == k).length := by
      intro k
      rw [List.filter_cons]
      split <;> simp [Nat.add_comm]
    simp only [hstep, List.sum_map_add, sum_ite_beq, ih]
    rw [List.count_eq_one_of_mem hnodup (hall a), List.length_cons, Nat.add_comm]

namespace Store

/-- `labelCount` is the number of nodes whose key carries that label. -/
theorem labelCount_eq (s : Store) (label : NodeLabel) :
    s.labelCount label = (s.nodes.toList.filter fun n => n.key.label == label).length := by
  rw [labelCount, ← Array.length_toList, Array.toList_filter]

/-- `relationCount` is the number of edges of that relation. -/
theorem relationCount_eq (s : Store) (relation : Relation) :
    s.relationCount relation = (s.edges.toList.filter fun e => e.relation == relation).length := by
  rw [relationCount, ← Array.length_toList, Array.toList_filter]

/-- The number of nodes is the sum of the totals of nodes. -/
theorem nodeCount_eq (s : Store) :
    s.nodeCount = s.counts.files + s.counts.functions + s.counts.classes := by
  have hall : ∀ n : Node, n.key.label ∈ NodeLabel.all := fun n => by
    cases n.key.label <;> decide
  calc s.nodeCount = s.nodes.toList.length := rfl
    _ = (NodeLabel.all.map s.labelCount).sum := by
        rw [funext (labelCount_eq s)]
        exact (sum_length_filter (fun n : Node => n.key.label) (by decide) hall _).symm
    _ = s.labelCount .file + (s.labelCount .function + (s.labelCount .classType + 0)) := rfl
    _ = s.counts.files + s.counts.functions + s.counts.classes := by
        rw [Nat.add_zero, ← Nat.add_assoc]
        rfl

/-- The number of links is the sum of the totals of links. -/
theorem linkCount_eq (s : Store) :
    s.linkCount = s.counts.definedIn + s.counts.imports + s.counts.calls + s.counts.usedIn
      + s.counts.inherits := by
  have hall : ∀ e : Edge, e.relation ∈ Relation.all := fun e => by
    cases e.relation <;> decide
  calc s.linkCount = s.edges.toList.length := rfl
    _ = (Relation.all.map s.relationCount).sum := by
        rw [funext (relationCount_eq s)]
        exact (sum_length_filter Edge.relation (by decide) hall _).symm
    _ = s.relationCount .definedIn + (s.relationCount .imports + (s.relationCount .calls
          + (s.relationCount .usedIn + (s.relationCount .inherits + 0)))) := rfl
    _ = s.counts.definedIn + s.counts.imports + s.counts.calls + s.counts.usedIn
          + s.counts.inherits := by
        simp only [Nat.add_zero, ← Nat.add_assoc]
        rfl

/-! ## Nodes and links -/

/-- `containsNode` asks exactly whether the key is indexed. -/
theorem containsNode_iff_index (s : Store) (k : NodeKey) :
    s.containsNode k ↔ ∃ i, s.index[k]? = some i := by
  rw [containsNode, Std.HashMap.contains_eq_isSome_getElem?, Option.isSome_iff_exists]

/-- A key is known exactly if some node has it. -/
theorem containsNode_iff {s : Store} (h : s.Consistent) (k : NodeKey) :
    s.containsNode k ↔ ∃ n ∈ s.nodes, n.key = k := by
  rw [containsNode_iff_index]
  constructor
  · rintro ⟨i, hi⟩
    obtain ⟨n, hn, hk⟩ := (h.index_iff k i).1 hi
    exact ⟨n, Array.mem_of_getElem? hn, hk⟩
  · rintro ⟨n, hn, hk⟩
    obtain ⟨i, hi⟩ := Array.getElem?_of_mem hn
    exact ⟨i, (h.index_iff k i).2 ⟨n, hi, hk⟩⟩

/-- No two nodes have the same key. -/
theorem keys_nodup {s : Store} (h : s.Consistent) : (s.nodes.toList.map Node.key).Nodup := by
  rw [List.nodup_iff_getElem?_ne_getElem?]
  intro i j hij hj heq
  rw [List.length_map, Array.length_toList] at hj
  rw [List.getElem?_map, List.getElem?_map, Array.getElem?_toList, Array.getElem?_toList,
    Array.getElem?_eq_getElem hj, Option.map_some] at heq
  obtain ⟨n, hn, hk⟩ := Option.map_eq_some_iff.1 heq
  have hi := (h.index_iff _ _).2 ⟨n, hn, hk⟩
  have hj' := (h.index_iff _ _).2 ⟨s.nodes[j], Array.getElem?_eq_getElem hj, rfl⟩
  rw [hi, Option.some.injEq] at hj'
  omega

/-- Different nodes of a consistent store have different keys. -/
theorem Consistent.keyAt_inj {s : Store} (h : s.Consistent) {i j : Nat} (hi : i < s.nodes.size)
    (hj : j < s.nodes.size) (heq : s.keyAt i = s.keyAt j) : i = j := by
  have hindex := h.index_keyAt hi
  rw [heq, h.index_keyAt hj] at hindex
  exact (Option.some.inj hindex).symm

/-- Different edges of a consistent store are different links. -/
theorem linkOf_inj {s : Store} (h : s.Consistent) {e e' : Edge} (he : e ∈ s.edges)
    (he' : e' ∈ s.edges) (heq : s.linkOf e = s.linkOf e') : e = e' := by
  obtain ⟨hs, ht⟩ := h.ends e he
  obtain ⟨hs', ht'⟩ := h.ends e' he'
  obtain ⟨hsource, hrelation, htarget⟩ := Link.mk.inj heq
  have hsource' : e.source = e'.source := h.keyAt_inj hs hs' hsource
  have htarget' : e.target = e'.target := h.keyAt_inj ht ht' htarget
  cases e
  cases e'
  cases hsource'
  cases hrelation
  cases htarget'
  rfl

/-- The links of a `Consistent` store are pairwise different: different edges have different
ends. -/
theorem links_nodup {s : Store} (h : s.Consistent) : s.links.Nodup :=
  h.edges_nodup.map_on fun _ he _ he' heq =>
    linkOf_inj h (Array.mem_toList_iff.1 he) (Array.mem_toList_iff.1 he') heq

/-- A link is found if both its ends are known and linked by an edge of its kind. -/
theorem hasLink_iff_linked (s : Store) (l : Link) :
    s.hasLink l ↔ ∃ a b, s.index[l.source]? = some a ∧ s.index[l.target]? = some b ∧
      ⟨a, l.relation, b⟩ ∈ s.linked := by
  rw [hasLink]
  split
  · next a b ha hb =>
    rw [Std.HashSet.contains_iff_mem]
    constructor
    · intro hl
      exact ⟨a, b, ha, hb, hl⟩
    · rintro ⟨a', b', ha', hb', hl⟩
      rw [ha] at ha'
      rw [hb] at hb'
      cases ha'
      cases hb'
      exact hl
  · next hnone =>
    constructor
    · intro hl
      cases hl
    · rintro ⟨a, b, ha, hb, -⟩
      exact absurd hb (hnone a b ha)

/-- A link is found by the index and the set exactly if some edge stands for it. -/
theorem hasLink_iff {s : Store} (h : s.Consistent) (l : Link) : s.hasLink l ↔ l ∈ s.links := by
  rw [links, List.mem_map, hasLink_iff_linked]
  constructor
  · rintro ⟨a, b, ha, hb, hl⟩
    refine ⟨⟨a, l.relation, b⟩, ?_, ?_⟩
    · rw [Array.mem_toList_iff, ← h.linked_iff]
      exact hl
    · rw [linkOf, h.keyAt_of_index ha, h.keyAt_of_index hb]
  · rintro ⟨e, he, rfl⟩
    rw [Array.mem_toList_iff] at he
    obtain ⟨hs, ht⟩ := h.ends e he
    exact ⟨e.source, e.target, h.index_keyAt hs, h.index_keyAt ht, (h.linked_iff e).2 he⟩

/-! ## Sorted links -/

/-- `linksOf` is the exported list of links cut down to one relation. -/
theorem linksOf_eq (s : Store) (relation : Relation) :
    s.linksOf relation = s.snapshot.links.filter (·.relation == relation) :=
  (filter_sortedBy Link.sortKey_injective _ _).symm

/-- The exported links of a `Consistent` store are the links it has, no more and no fewer. -/
theorem mem_snapshot_links {s : Store} (h : s.Consistent) (l : Link) :
    l ∈ s.snapshot.links ↔ s.hasLink l := by
  rw [snapshot, mem_sortedBy, hasLink_iff h]

/-- `linksOf` lists as many links as `relationCount` counts edges. -/
theorem length_linksOf (s : Store) (relation : Relation) :
    (s.linksOf relation).length = s.relationCount relation := by
  rw [linksOf, (sortedBy_perm _ _).length_eq, links, List.filter_map, List.length_map,
    relationCount_eq]
  rfl

/-- `linksOf` repeats nothing in a `Consistent` store. -/
theorem linksOf_nodup {s : Store} (h : s.Consistent) (relation : Relation) :
    (s.linksOf relation).Nodup :=
  (sortedBy_perm _ _).nodup_iff.2 ((links_nodup h).filter _)

/-- A link is listed by `linksOf` when it is of that relation and the store has it. -/
theorem mem_linksOf {s : Store} (h : s.Consistent) (relation : Relation) (l : Link) :
    l ∈ s.linksOf relation ↔ l.relation = relation ∧ s.hasLink l := by
  rw [linksOf, mem_sortedBy, List.mem_filter, hasLink_iff h, beq_iff_eq, and_comm]

/-- **All views of a graph agree**, after any calls that lead to it from the empty graph: the index
and the set of links say what the nodes and edges say, the totals add up, and the sorted links of a
kind are those of the snapshot, each once, and those that are found one by one. -/
theorem views_agree (calls : List Call) :
    let s := empty.performAll calls
    s.Consistent ∧ (s.nodes.toList.map Node.key).Nodup ∧ (∀ n ∈ s.nodes, s.containsNode n.key) ∧
      s.nodeCount = s.counts.files + s.counts.functions + s.counts.classes ∧
      s.linkCount = s.counts.definedIn + s.counts.imports + s.counts.calls + s.counts.usedIn
        + s.counts.inherits ∧
      ∀ relation, (s.linksOf relation).Nodup ∧
        (s.linksOf relation).length = s.relationCount relation ∧
        s.linksOf relation = s.snapshot.links.filter (·.relation == relation) ∧
        ∀ l, l ∈ s.linksOf relation ↔ l.relation = relation ∧ s.hasLink l := by
  intro s
  have h : s.Consistent := consistent_performAll consistent_empty calls
  refine ⟨h, keys_nodup h, ?_, nodeCount_eq s, linkCount_eq s, fun relation => ?_⟩
  · intro n hn
    exact (containsNode_iff h n.key).2 ⟨n, hn, rfl⟩
  · exact ⟨linksOf_nodup h relation, length_linksOf s relation, linksOf_eq s relation,
      mem_linksOf h relation⟩

end Store

end CodeGraph
