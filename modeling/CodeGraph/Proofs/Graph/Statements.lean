import CodeGraph.Proofs.Graph.CanonicalForm
import CodeGraph.Proofs.Graph.Server
import CodeGraph.Proofs.Graph.UniqueKeys

/-! # Statements do what upserts do

The same upserts can be made in memory, by `Store.merge`, or in a database, by the statements of
`Statement.ofUpsert`. They are compared in two ways. A database may know more than a graph in
memory can hold; there, what both can tell of nodes, names and links is the same before and after
(`PropertyGraph.Shows`). And each graph in memory has an image that holds nothing else
(`Store.toGraph`); there, the results are equal. Both come together in
`statements_agree_with_memory`. -/

namespace CodeGraph

namespace Store

variable {s : Store}

/-! ## Many nodes and links -/

/-- Adds the nodes with some keys, as far as they are not there. -/
def mergeNodes (s : Store) (ks : List NodeKey) : Store := ks.foldl (fun s k => (s.mergeNode k).2) s

/-- Adds links and their nodes, as far as they are not there. -/
def mergeLinks (s : Store) (ls : List Link) : Store := ls.foldl mergeLink s

/-- `mergeNodes` keeps a store `Consistent`, by induction on the keys. -/
theorem consistent_mergeNodes (h : s.Consistent) (ks : List NodeKey) :
    (s.mergeNodes ks).Consistent := by
  induction ks generalizing s with
  | nil => exact h
  | cons k ks ih => exact ih (consistent_mergeNode h k)

/-- After `mergeNodes` a store contains the keys of the list and those it had. -/
theorem containsNode_mergeNodes (s : Store) (ks : List NodeKey) (k : NodeKey) :
    (s.mergeNodes ks).containsNode k ↔ k ∈ ks ∨ s.containsNode k := by
  induction ks generalizing s with
  | nil => simp [mergeNodes]
  | cons k' ks ih =>
    refine (ih _).trans ?_
    rw [containsNode_mergeNode, List.mem_cons, or_left_comm, or_assoc]

/-- `mergeNodes` names no file. -/
theorem fileName?_mergeNodes (h : s.Consistent) (ks : List NodeKey) (path : String) :
    (s.mergeNodes ks).fileName? path = s.fileName? path := by
  induction ks generalizing s with
  | nil => rfl
  | cons k ks ih => exact (ih (consistent_mergeNode h k)).trans (fileName?_mergeNode h k path)

/-- `mergeNodes` draws no link. -/
theorem hasLink_mergeNodes (h : s.Consistent) (ks : List NodeKey) (l : Link) :
    (s.mergeNodes ks).hasLink l ↔ s.hasLink l := by
  induction ks generalizing s with
  | nil => rfl
  | cons k ks ih => exact (ih (consistent_mergeNode h k)).trans (hasLink_mergeNode h k l)

/-- `mergeLinks` keeps a store `Consistent`, by induction on the links. -/
theorem consistent_mergeLinks (h : s.Consistent) (ls : List Link) :
    (s.mergeLinks ls).Consistent := by
  induction ls generalizing s with
  | nil => exact h
  | cons l ls ih => exact ih (consistent_mergeLink h l)

/-- After `mergeLinks` a store contains the ends of the links and the nodes it had. -/
theorem containsNode_mergeLinks (s : Store) (ls : List Link) (k : NodeKey) :
    (s.mergeLinks ls).containsNode k
      ↔ (∃ l ∈ ls, k ∈ [l.source, l.target]) ∨ s.containsNode k := by
  induction ls generalizing s with
  | nil => simp [mergeLinks]
  | cons l ls ih =>
    refine (ih _).trans ?_
    rw [containsNode_mergeLink, List.exists_mem_cons_iff, or_left_comm, or_assoc]

/-- `mergeLink` names no file, though it may add one. -/
theorem fileName?_mergeLink (h : s.Consistent) (l : Link) (path : String) :
    (s.mergeLink l).fileName? path = s.fileName? path := by
  rw [mergeLink, fileName?_mergeEdge, fileName?_mergeNode (consistent_mergeNode h _),
    fileName?_mergeNode h]

/-- `mergeLinks` names no file, by induction on the links. -/
theorem fileName?_mergeLinks (h : s.Consistent) (ls : List Link) (path : String) :
    (s.mergeLinks ls).fileName? path = s.fileName? path := by
  induction ls generalizing s with
  | nil => rfl
  | cons l ls ih => exact (ih (consistent_mergeLink h l)).trans (fileName?_mergeLink h l path)

/-- After `mergeLinks` a store has the links of the list and those it had. -/
theorem hasLink_mergeLinks (h : s.Consistent) (ls : List Link) (l : Link) :
    (s.mergeLinks ls).hasLink l ↔ l ∈ ls ∨ s.hasLink l := by
  induction ls generalizing s with
  | nil => simp [mergeLinks]
  | cons l' ls ih =>
    refine (ih (consistent_mergeLink h l')).trans ?_
    rw [hasLink_mergeLink h, List.mem_cons, or_left_comm, or_assoc]

end Store

namespace PropertyGraph

/-! ## A graph in memory that shows the same -/

/-- **A property graph shows what a graph in memory shows**: the same nodes, names and links. -/
structure Shows (g : PropertyGraph) (s : Store) : Prop where
  nodes : ∀ k, g.HasNode k ↔ s.containsNode k
  names : ∀ path, g.fileName? path = s.fileName? path
  links : ∀ l, g.HasLink l ↔ s.hasLink l

variable {g : PropertyGraph} {k : NodeKey} {i : Nat}

/-- **One step**: the same upsert, made on both sides, is seen on both sides. -/
theorem Shows.merge {s : Store} (hg : g.Keyed) (hs : s.Consistent) (h : g.Shows s) (op : Upsert) :
    (g.merge op).Shows (s.merge op) where
  nodes k := by rw [hasNode_merge, Store.containsNode_merge, h.nodes]
  names path := by rw [fileName?_merge, Store.fileName?_merge hs, h.names]
  links l := by rw [hasLink_merge hg, Store.hasLink_merge hs, h.links]

/-- The upsert that gives a file the name it has. -/
def naming? (n : PropertyNode) : Option Upsert :=
  match n.key?, n.properties "name" with
  | some (.file path), some name => some (.file path name)
  | _, _ => none

/-- The link between the keys of two nodes, if they have keys. -/
def linkOf? (g : PropertyGraph) (e : Edge) : Option Link :=
  match g.keys[e.source]?, g.keys[e.target]? with
  | some (some source), some (some target) => some ⟨source, e.relation, target⟩
  | _, _ => none

/-- What is seen of a property graph, in memory. -/
def memory (g : PropertyGraph) : Store :=
  ((Store.empty.mergeNodes (g.keys.filterMap id)).mergeAll (g.nodes.filterMap naming?)).mergeLinks
    (g.links.filterMap g.linkOf?)

/-- `naming?` gives an upsert exactly for a file with a name, the one that gives it that name. -/
theorem naming?_eq_some_iff {n : PropertyNode} {op : Upsert} :
    naming? n = some op ↔ ∃ path name, op = .file path name ∧ n.key? = some (.file path) ∧
      n.properties "name" = some name := by
  rw [naming?]
  split
  · next path name hkey hname =>
    constructor
    · rintro ⟨⟩
      exact ⟨path, name, rfl, hkey, hname⟩
    · rintro ⟨path', name', rfl, hkey', hname'⟩
      cases hkey.symm.trans hkey'
      cases hname.symm.trans hname'
      rfl
  · next hnot =>
    refine ⟨fun h => (by cases h), ?_⟩
    rintro ⟨path, name, -, hkey, hname⟩
    exact absurd hname (hnot path name hkey)

/-- `linkOf?` gives the link between the keys at the two ends, when both have one. -/
theorem linkOf?_eq_some_iff {e : Edge} {l : Link} :
    g.linkOf? e = some l ↔ g.keys[e.source]? = some (some l.source) ∧
      g.keys[e.target]? = some (some l.target) ∧ e.relation = l.relation := by
  rw [linkOf?]
  split
  · next source target hsource htarget =>
    obtain ⟨source', relation', target'⟩ := l
    simp [hsource, htarget, and_comm]
  · next hnot =>
    refine ⟨fun h => (by cases h), ?_⟩
    rintro ⟨hsource, htarget, -⟩
    exact absurd htarget (hnot _ _ hsource)

/-- The links read off a graph by `linkOf?` are those it `HasLink`. -/
theorem mem_filterMap_linkOf? {l : Link} :
    l ∈ g.links.filterMap g.linkOf? ↔ g.HasLink l := by
  simp only [List.mem_filterMap, linkOf?_eq_some_iff, HasLink]
  constructor
  · rintro ⟨⟨a, relation, b⟩, he, ha, hb, rfl⟩
    exact ⟨a, b, ha, hb, he⟩
  · rintro ⟨a, b, ha, hb, he⟩
    exact ⟨_, he, ha, hb, rfl⟩

/-- Where keys are unique, a file has the name of any node with its key. -/
theorem Keyed.fileName?_eq_some_iff (h : g.Keyed) {path name : String} :
    g.fileName? path = some name ↔ .file path name ∈ g.nodes.filterMap naming? := by
  simp only [fileName?, Option.bind_eq_some_iff, h.position?_iff, List.mem_filterMap,
    naming?_eq_some_iff, keys_getElem?, Option.map_eq_some_iff, Upsert.file.injEq]
  constructor
  · rintro ⟨i, ⟨n, hn, hkey⟩, n', hn', hname⟩
    cases hn.symm.trans hn'
    exact ⟨n, List.mem_of_getElem? hn, path, name, ⟨rfl, rfl⟩, hkey, hname⟩
  · rintro ⟨n, hn, path', name', ⟨rfl, rfl⟩, hkey, hname⟩
    obtain ⟨i, hi⟩ := List.getElem?_of_mem hn
    exact ⟨i, ⟨n, hi, hkey⟩, n, hi, hname⟩

/-- Where keys are unique, the last name is the only one. -/
theorem Keyed.lastName?_naming? (h : g.Keyed) (path : String) :
    Upsert.lastName? path (g.nodes.filterMap naming?) = g.fileName? path := by
  cases hlast : Upsert.lastName? path (g.nodes.filterMap naming?) with
  | some name =>
    exact (h.fileName?_eq_some_iff.2 (Upsert.mem_of_lastName?_eq_some hlast)).symm
  | none =>
    refine (Option.eq_none_iff_forall_ne_some.2 fun name hname => ?_).symm
    exact Upsert.lastName?_eq_none_iff.1 hlast name (h.fileName?_eq_some_iff.1 hname)

/-- `PropertyGraph.memory` is a `Consistent` store, being built by merging alone. -/
theorem consistent_memory (g : PropertyGraph) : g.memory.Consistent :=
  Store.consistent_mergeLinks
    (Store.consistent_mergeAll (Store.consistent_mergeNodes Store.consistent_empty _) _) _

/-- **Every graph with unique keys shows what some graph in memory shows.** -/
theorem Keyed.shows_memory (h : g.Keyed) : g.Shows g.memory := by
  have hnodes := Store.consistent_mergeNodes Store.consistent_empty (g.keys.filterMap id)
  have hnames := Store.consistent_mergeAll hnodes (g.nodes.filterMap naming?)
  refine ⟨fun k => ?_, fun path => ?_, fun l => ?_⟩
  · have hseen : k ∈ g.keys.filterMap id ↔ g.HasNode k := by simp [HasNode]
    rw [memory, Store.containsNode_mergeLinks, Store.containsNode_mergeAll,
      Store.containsNode_mergeNodes, hseen, or_iff_left (Store.containsNode_empty k)]
    -- names and links bring no node that was not there
    refine ⟨fun hk => .inr (.inr hk), ?_⟩
    rintro (⟨l, hl, hk⟩ | ⟨op, hop, hk⟩ | hk)
    · obtain ⟨a, b, ha, hb, -⟩ := mem_filterMap_linkOf?.1 hl
      rcases List.mem_pair.1 hk with rfl | rfl
      · exact List.mem_of_getElem? ha
      · exact List.mem_of_getElem? hb
    · obtain ⟨n, hn, hnaming⟩ := List.mem_filterMap.1 hop
      obtain ⟨path, name, rfl, hkey, -⟩ := naming?_eq_some_iff.1 hnaming
      obtain rfl := List.mem_singleton.1 hk
      exact List.mem_map.2 ⟨n, hn, hkey⟩
    · exact hk
  · rw [memory, Store.fileName?_mergeLinks hnames, Store.fileName?_mergeAll hnodes,
      Store.fileName?_mergeNodes Store.consistent_empty, Store.fileName?_empty, Option.or_none,
      h.lastName?_naming?]
  · rw [memory, Store.hasLink_mergeLinks hnames, Store.hasLink_mergeAll hnodes,
      Store.hasLink_mergeNodes Store.consistent_empty, mem_filterMap_linkOf?,
      or_iff_left (Store.hasLink_empty l), or_iff_left]
    rintro ⟨op, hop, hl⟩
    obtain ⟨n, -, hnaming⟩ := List.mem_filterMap.1 hop
    obtain ⟨path, name, rfl, -⟩ := naming?_eq_some_iff.1 hnaming
    cases hl

end PropertyGraph

/-! ## A graph in memory as a property graph -/

/-- A node of a graph in memory as a node with properties. -/
def Node.toProperty (n : Node) : PropertyNode :=
  .ofValues n.key.label <| n.key.values ++ match n.key, n.name with
    | .file _, some name => [("name", name)]
    | _, _ => []

/-- A node of a store keeps its key as a property node. -/
theorem Node.key?_toProperty (n : Node) : n.toProperty.key? = some n.key := by
  obtain ⟨key, name⟩ := n
  cases key <;> simp [toProperty, PropertyNode.ofValues, PropertyNode.key?, NodeKey.label,
    NodeKey.values, List.lookup_cons]

/-- A node with nothing but its key becomes a property node with the values of the key. -/
theorem Node.toProperty_mk (k : NodeKey) :
    ({ key := k } : Node).toProperty = .ofValues k.label k.values := by
  cases k <;> rfl

/-- Naming a file's node before or after it becomes a property node is the same. -/
theorem Node.toProperty_named {n : Node} {path : String} (h : n.key = .file path) (name : String) :
    ({ n with name := some name } : Node).toProperty = n.toProperty.set "name" name := by
  obtain ⟨key, old⟩ := n
  cases h
  simp only [toProperty, PropertyNode.ofValues, PropertyNode.set, NodeKey.label, NodeKey.values]
  congr 1
  funext property
  by_cases hname : property = "name"
  · subst hname
    simp [List.lookup_cons]
  · have hother : (property == "name") = false := beq_false_of_ne hname
    cases old <;> by_cases hpath : property = "path" <;>
      simp [List.lookup_cons, hname, hother, hpath, beq_false_of_ne]

namespace Store

/-- A graph in memory as a property graph. -/
def toGraph (s : Store) : PropertyGraph :=
  ⟨s.nodes.toList.map Node.toProperty, s.edges.toList⟩

variable {s : Store}

/-- The keys of `toGraph` are those of the nodes, in their order. -/
theorem keys_toGraph (s : Store) : s.toGraph.keys = s.nodes.toList.map (some ·.key) := by
  rw [PropertyGraph.keys, toGraph, List.map_map]
  exact List.map_congr_left fun n _ => n.key?_toProperty

/-- A key stands at a position of `toGraph` exactly when the store's node there has it. -/
theorem keys_toGraph_getElem? (i : Nat) {k : NodeKey} :
    s.toGraph.keys[i]? = some (some k) ↔ ∃ n, s.nodes[i]? = some n ∧ n.key = k := by
  rw [keys_toGraph, List.getElem?_map, Array.getElem?_toList]
  simp [Option.map_eq_some_iff]

/-- The graph of a `Consistent` store is `Keyed`: positions are indexed by the keys that stand
there. -/
theorem keyed_toGraph (h : s.Consistent) : s.toGraph.Keyed where
  unique hi hj := by
    rw [keys_toGraph_getElem?, ← h.index_iff] at hi hj
    exact Option.some.inj (hi.symm.trans hj)
  ends e he := by
    rw [toGraph, List.length_map, Array.length_toList]
    exact h.ends e (Array.mem_toList_iff.1 he)

/-- The index finds what is found by looking at all nodes. -/
theorem position?_toGraph (h : s.Consistent) (k : NodeKey) :
    s.toGraph.position? k = s.index[k]? :=
  Option.ext fun i => by
    rw [(keyed_toGraph h).position?_iff, keys_toGraph_getElem?, h.index_iff]

/-- **`toGraph` commutes with `mergeNode`**, and both sides find the node at the same position. -/
theorem toGraph_mergeNode (h : s.Consistent) (k : NodeKey) :
    s.toGraph.mergeNode k = ((s.mergeNode k).1, (s.mergeNode k).2.toGraph) := by
  cases hk : s.index[k]? with
  | some i =>
    rw [mergeNode_of_some hk, PropertyGraph.mergeNode_of_some (position?_toGraph h k ▸ hk)]
  | none =>
    rw [mergeNode_of_none hk, PropertyGraph.mergeNode_of_none (position?_toGraph h k ▸ hk)]
    simp [toGraph, Node.toProperty_mk]

/-- `toGraph` commutes with drawing an edge. -/
theorem toGraph_mergeEdge (h : s.Consistent) (e : Edge) :
    s.toGraph.bindLink e = (s.mergeEdge e).toGraph := by
  have hmem : e ∈ s.toGraph.links ↔ e ∈ s.linked := by
    rw [h.linked_iff, ← Array.mem_toList_iff]
    rfl
  rw [PropertyGraph.bindLink]
  split
  · next he => rw [mergeEdge_of_mem (hmem.1 he)]
  · next he =>
    rw [mergeEdge_of_not_mem (mt hmem.2 he)]
    simp [toGraph]

/-- `toGraph` commutes with naming the node of a file. -/
theorem toGraph_nameNode (h : s.Consistent) {path : String} {i : Nat}
    (hi : s.index[NodeKey.file path]? = some i) (name : String) :
    s.toGraph.assign i "name" name = (s.nameNode i name).toGraph := by
  obtain ⟨n, hn, hkey⟩ := (h.index_iff _ _).1 hi
  rw [PropertyGraph.assign, toGraph, toGraph, nameNode]
  congr 1
  refine List.ext_getElem? fun j => ?_
  rw [List.getElem?_modify, List.getElem?_map, List.getElem?_map, Array.getElem?_toList,
    Array.getElem?_toList, Array.getElem?_modify]
  -- the number belongs to a file, whose name is a property of its node
  by_cases hij : i = j
  · subst hij
    simp [hn, Node.toProperty_named hkey]
  · simp [hij]

/-- **One step**: an upsert does the same to a graph in memory and to its image. -/
theorem toGraph_merge (h : s.Consistent) (op : Upsert) :
    s.toGraph.merge op = (s.merge op).toGraph := by
  obtain ⟨path, name, rfl⟩ | ⟨l, hl, -⟩ := op.file_or_link
  · rw [PropertyGraph.merge, PropertyGraph.mergeFile_eq, toGraph_mergeNode h, merge, mergeFile_eq]
    exact toGraph_nameNode (consistent_mergeNode h _) (index_mergeNode_self s _) name
  · have h₁ := consistent_mergeNode h l.source
    rw [PropertyGraph.merge_of_link hl, merge_of_link hl, PropertyGraph.mergeLink]
    simp only [toGraph_mergeNode h, toGraph_mergeNode h₁,
      toGraph_mergeEdge (consistent_mergeNode h₁ l.target)]
    rfl

/-- **`toGraph` commutes with a list of upserts**: induction, with `toGraph_merge` at each step. -/
theorem toGraph_mergeAll (h : s.Consistent) (ops : List Upsert) :
    s.toGraph.mergeAll ops = (s.mergeAll ops).toGraph := by
  induction ops generalizing s with
  | nil => rfl
  | cons op ops ih =>
    rw [PropertyGraph.mergeAll, List.foldl_cons, toGraph_merge h, ← PropertyGraph.mergeAll]
    exact ih (consistent_merge h op)

/-- The number of batches is not part of the graph. -/
theorem toGraph_apply (s : Store) (batch : Batch) :
    (s.apply batch).toGraph = (s.mergeAll batch.ops.toList).toGraph := by
  rw [apply_eq]
  rfl

/-- **All batches**: they do the same to a graph in memory and to its image. -/
theorem toGraph_performAll (h : s.Consistent) (batches : List Batch) :
    batches.foldl (fun g batch => g.mergeAll batch.ops.toList) s.toGraph
      = (s.performAll (batches.map .apply)).toGraph := by
  induction batches generalizing s with
  | nil => rfl
  | cons batch batches ih =>
    rw [List.foldl_cons, toGraph_mergeAll h, ← toGraph_apply, List.map_cons, performAll_cons]
    exact ih (consistent_performAll h [.apply batch])

/-- The graph of a `Consistent` store `Shows` what the store does. -/
theorem shows_toGraph (h : s.Consistent) : s.toGraph.Shows s := by
  refine ⟨fun k => ?_, fun path => ?_, fun l => ?_⟩
  · rw [PropertyGraph.hasNode_iff, position?_toGraph h, containsNode_iff_index]
  · rw [PropertyGraph.fileName?, position?_toGraph h, fileName?_eq]
    refine Option.bind_congr fun i hi => ?_
    obtain ⟨n, hn, hkey⟩ := (h.index_iff _ _).1 hi
    rw [toGraph, List.getElem?_map, Array.getElem?_toList, hn]
    obtain ⟨key, name⟩ := n
    cases hkey
    cases name <;> simp [Node.toProperty, PropertyNode.ofValues, NodeKey.values, List.lookup_cons]
  · rw [(keyed_toGraph h).hasLink_iff, hasLink_iff_linked]
    simp only [position?_toGraph h, h.linked_iff, ← Array.mem_toList_iff]
    rfl

end Store

/-! ## Agreement -/

/-- **Statements and memory agree.** On every graph with unique keys, the statement of an upsert can
be carried out; the keys stay unique, what the upsert does not speak of stays as it is, and what is
seen afterwards is what is seen in memory after the same upsert. On a graph that is the image of one
in memory, the result is the image of the result in memory. So batches that are sent to a database,
each carried out once, build the graph that they build in memory. -/
theorem statements_agree_with_memory :
    (∀ (op : Upsert) (g : PropertyGraph), g.Keyed →
      ∃ g', (Statement.ofUpsert op).run g = some g' ∧ g'.Keyed ∧ PropertyGraph.Extends op g g' ∧
        (g.memory.Consistent ∧ g.Shows g.memory) ∧
        ∀ s : Store, s.Consistent → g.Shows s → g'.Shows (s.merge op)) ∧
    (∀ s : Store, s.Consistent → s.toGraph.Keyed ∧ s.toGraph.Shows s ∧
      ∀ op, (Statement.ofUpsert op).run s.toGraph = some (s.merge op).toGraph) ∧
    ∀ (r : Remote) (cause : Nat → Loss) (reply : RemoteRequest → Server → Nat × String)
      (batches : List Batch) (s : Store) (n : Nat), r.address.isSome → s.Consistent →
      r.applyAll (.serving (fun _ => .answered) cause reply) batches ⟨s.toGraph, n⟩
        = ⟨(s.performAll (batches.map .apply)).toGraph, n + batches.length⟩ := by
  refine ⟨fun op g hg => ?_, fun s hs => ?_, fun r cause reply batches s n hurl hs => ?_⟩
  · exact ⟨g.merge op, Statement.run_ofUpsert op g, PropertyGraph.keyed_merge hg op,
      PropertyGraph.extends_merge hg op, ⟨g.consistent_memory, hg.shows_memory⟩,
      fun s hs hshows => hshows.merge hg hs op⟩
  · exact ⟨Store.keyed_toGraph hs, Store.shows_toGraph hs, fun op => by
      rw [Statement.run_ofUpsert, Store.toGraph_merge hs]⟩
  · obtain ⟨url, hurl⟩ := Option.isSome_iff_exists.1 hurl
    rw [Remote.applyAll_answered hurl, Store.toGraph_performAll hs]

/-- A class of no known file that extends itself, in a database that knows more of one file than its
path and holds a function of no file; and two namings of one file, sent as two batches. -/
theorem statements_agree_with_memory_self_extension :
    let g : PropertyGraph :=
      ⟨[.ofValues .file [("path", "a.py"), ("size", "3")], .ofValues .function [("name", "f")]], []⟩
    let op : Upsert := .inherits "A" "" "A"
    let url := "http://localhost:7474/db/neo4j/tx/commit"
    let r : Remote := ⟨{}, url, some url⟩
    let batches := ["a", "b"].map fun name => (Batch.empty "a.py").pushAll [.file "a.py" name]
    (∃ g', (Statement.ofUpsert op).run g = some g' ∧ g'.Keyed ∧ PropertyGraph.Extends op g g' ∧
        g'.Shows (g.memory.merge op)) ∧
      (Statement.ofUpsert op).run Store.empty.toGraph = some (Store.empty.merge op).toGraph ∧
      r.applyAll (.serving (fun _ => .answered) (fun _ => .broken) fun _ _ => (500, "")) batches
          ⟨Store.empty.toGraph, 0⟩
        = ⟨(Store.empty.performAll (batches.map .apply)).toGraph, 2⟩ := by
  intro g op url r batches
  have hkeyed : g.Keyed := by
    refine ⟨fun {i j k} hi hj => ?_, fun e he => by cases he⟩
    have hkeys : g.keys = [some (.file "a.py"), none] := by decide
    rw [hkeys] at hi hj
    rcases i with _ | _ | i <;> rcases j with _ | _ | j <;> simp_all
  obtain ⟨g', hrun, hkeyed', hextends, ⟨hmemory, hshows⟩, hall⟩ :=
    statements_agree_with_memory.1 op g hkeyed
  exact ⟨⟨g', hrun, hkeyed', hextends, hall _ hmemory hshows⟩,
    (statements_agree_with_memory.2.1 _ Store.consistent_empty).2.2 op,
    statements_agree_with_memory.2.2 r _ _ batches _ 0 rfl Store.consistent_empty⟩

end CodeGraph
