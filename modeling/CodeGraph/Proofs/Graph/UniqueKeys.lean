import CodeGraph.Proofs.Graph.PropertyGraph

/-! # Graphs with unique keys

A database that keeps files unique by path, and functions and classes by name and file, holds a
graph in which a key says which node is meant (`PropertyGraph.Keyed`). Upserts keep such a graph so
(`keyed_merge`). What is seen of it changes by the nodes, the link and the name that an upsert
gives, and nothing else of it changes (`extends_merge`). -/

namespace CodeGraph

namespace PropertyGraph

/-! ## What is seen of a property graph -/

/-- **The uniqueness keys**: no two nodes have the same key. Links are between nodes. -/
structure Keyed (g : PropertyGraph) : Prop where
  unique : ∀ {i j : Nat} {k : NodeKey}, g.keys[i]? = some (some k) → g.keys[j]? = some (some k) →
    i = j
  ends : ∀ e ∈ g.links, e.source < g.nodes.length ∧ e.target < g.nodes.length

/-- Whether there is a node with a key. -/
def HasNode (g : PropertyGraph) (k : NodeKey) : Prop := some k ∈ g.keys

/-- Whether there is a link between nodes with the keys that it gives. -/
def HasLink (g : PropertyGraph) (l : Link) : Prop :=
  ∃ a b, g.keys[a]? = some (some l.source) ∧ g.keys[b]? = some (some l.target) ∧
    ⟨a, l.relation, b⟩ ∈ g.links

variable {g : PropertyGraph} {k k' : NodeKey} {i : Nat}

/-- A graph has a node with a key exactly when `position?` finds one. -/
theorem hasNode_iff : g.HasNode k ↔ ∃ i, g.position? k = some i := by
  rw [← Option.isSome_iff_exists, Option.isSome_iff_ne_none, Ne, position?_eq_none_iff, not_not,
    HasNode]

/-- The key at a position is the `key?` of the node there. -/
theorem keys_getElem? (g : PropertyGraph) (i : Nat) :
    g.keys[i]? = (g.nodes[i]?).map PropertyNode.key? :=
  List.getElem?_map ..

namespace Keyed

/-- Where keys are unique, the node with a key is the one that is found. -/
theorem position?_iff (h : g.Keyed) : g.position? k = some i ↔ g.keys[i]? = some (some k) := by
  refine ⟨keys_of_position?, fun hi => ?_⟩
  obtain ⟨j, hj⟩ := hasNode_iff.1 (List.mem_of_getElem? hi)
  rw [hj, h.unique (keys_of_position? hj) hi]

/-- In a `Keyed` graph a link is there exactly when it runs between the positions its ends are found
at. -/
theorem hasLink_iff (h : g.Keyed) {l : Link} :
    g.HasLink l ↔ ∃ a b, g.position? l.source = some a ∧ g.position? l.target = some b ∧
      ⟨a, l.relation, b⟩ ∈ g.links := by
  simp only [HasLink, h.position?_iff]

/-! ## Upserts keep keys unique -/

/-- `mergeNode` keeps a graph `Keyed`: it makes a node only where no other has the key. -/
theorem mergeNode (h : g.Keyed) (k : NodeKey) : (g.mergeNode k).2.Keyed := by
  cases hk : g.position? k with
  | some i => rwa [mergeNode_of_some hk]
  | none =>
    have hnew : some k ∉ g.keys := position?_eq_none_iff.1 hk
    -- a key is that of an old node, or it is the new one at the end
    have hcases : ∀ {i : Nat} {k' : NodeKey}, (g.keys ++ [some k])[i]? = some (some k') →
        g.keys[i]? = some (some k') ∨ i = g.keys.length ∧ k' = k := by
      intro i k' hi
      rw [List.getElem?_append] at hi
      split at hi
      · exact .inl hi
      · rw [List.getElem?_singleton] at hi
        split at hi
        · cases hi
          exact .inr ⟨by omega, rfl⟩
        · cases hi
    refine ⟨fun {i j k'} hi hj => ?_, fun e he => ?_⟩
    · rw [keys_mergeNode_of_none hk] at hi hj
      rcases hcases hi with hi | ⟨rfl, rfl⟩ <;> rcases hcases hj with hj | ⟨rfl, hkj⟩
      · exact h.unique hi hj
      · exact absurd (List.mem_of_getElem? hi) (hkj ▸ hnew)
      · exact absurd (List.mem_of_getElem? hj) hnew
      · rfl
    · rw [links_mergeNode] at he
      have hends := h.ends e he
      rw [mergeNode_of_none hk, List.length_append]
      omega

/-- `bindLink` keeps a graph `Keyed` as long as both ends are nodes. -/
theorem bindLink (h : g.Keyed) {e : Edge} (hsource : e.source < g.nodes.length)
    (htarget : e.target < g.nodes.length) : (g.bindLink e).Keyed := by
  refine ⟨fun {i j k} hi hj => ?_, fun e' he' => ?_⟩
  · rw [keys, nodes_bindLink, ← keys] at hi hj
    exact h.unique hi hj
  · rw [nodes_bindLink]
    rcases mem_links_bindLink.1 he' with he' | rfl
    · exact h.ends e' he'
    · exact ⟨hsource, htarget⟩

/-- Naming a file keeps a graph `Keyed`: the keys do not change. -/
theorem assign_name (h : g.Keyed) {path : String} (hi : g.position? (.file path) = some i)
    (name : String) : (g.assign i "name" name).Keyed := by
  refine ⟨fun {i' j k} hi' hj => ?_, fun e he => ?_⟩
  · rw [keys_assign_name hi] at hi' hj
    exact h.unique hi' hj
  · rw [assign, List.length_modify]
    exact h.ends e he

end Keyed

/-- `mergeLink` keeps a graph `Keyed`. -/
theorem keyed_mergeLink (h : g.Keyed) (l : Link) : (g.mergeLink l).Keyed := by
  have h₁ := h.mergeNode l.source
  have h₂ := h₁.mergeNode l.target
  refine h₂.bindLink ?_ ?_
  · exact lt_of_position? (position?_mergeNode_of_some (position?_mergeNode_self g l.source))
  · exact lt_of_position? (position?_mergeNode_self _ l.target)

/-- `mergeFile` keeps a graph `Keyed`. -/
theorem keyed_mergeFile (h : g.Keyed) (path name : String) : (g.mergeFile path name).Keyed :=
  (h.mergeNode _).assign_name (position?_mergeNode_self g _) name

/-- **One step**: an upsert keeps the keys unique. -/
theorem keyed_merge (h : g.Keyed) (op : Upsert) : (g.merge op).Keyed := by
  obtain ⟨path, name, rfl⟩ | ⟨l, hl, -⟩ := op.file_or_link
  · exact keyed_mergeFile h path name
  · rw [merge_of_link hl]
    exact keyed_mergeLink h l

/-! ## What an upsert changes -/

/-- `mergeNode k` adds `k` to the nodes of a graph and nothing else. -/
theorem hasNode_mergeNode (g : PropertyGraph) (k k' : NodeKey) :
    (g.mergeNode k).2.HasNode k' ↔ k' = k ∨ g.HasNode k' := by
  rw [hasNode_iff, hasNode_iff, position?_mergeNode]
  split
  · next hk => simp [hk]
  · next hk => rw [or_iff_right (Ne.symm hk)]

/-- `bindLink` adds no node. -/
theorem hasNode_bindLink (g : PropertyGraph) (e : Edge) (k : NodeKey) :
    (g.bindLink e).HasNode k ↔ g.HasNode k := by
  rw [hasNode_iff, hasNode_iff, position?_bindLink]

/-- An upsert adds the nodes it mentions and no others. -/
theorem hasNode_merge (g : PropertyGraph) (op : Upsert) (k : NodeKey) :
    (g.merge op).HasNode k ↔ k ∈ op.nodes ∨ g.HasNode k := by
  obtain ⟨path, name, rfl⟩ | ⟨l, hl, hnodes⟩ := op.file_or_link
  · rw [Upsert.nodes, List.mem_singleton, ← hasNode_mergeNode]
    simp only [hasNode_iff]
    exact exists_congr fun i => by
      rw [← position?_assign_name (position?_mergeNode_self g (.file path)) name]
      rfl
  · rw [merge_of_link hl, hnodes, List.mem_pair, mergeLink, hasNode_bindLink, hasNode_mergeNode,
      hasNode_mergeNode, ← or_assoc, or_comm (a := k = l.target)]

/-- A new node has no links. -/
theorem hasLink_mergeNode (h : g.Keyed) (k : NodeKey) (l : Link) :
    (g.mergeNode k).2.HasLink l ↔ g.HasLink l := by
  rw [(h.mergeNode k).hasLink_iff, h.hasLink_iff, links_mergeNode]
  constructor
  · rintro ⟨a, b, ha, hb, hl⟩
    obtain ⟨hlta, hltb⟩ := h.ends _ hl
    exact ⟨a, b, position?_of_mergeNode ha hlta, position?_of_mergeNode hb hltb, hl⟩
  · rintro ⟨a, b, ha, hb, hl⟩
    exact ⟨a, b, position?_mergeNode_of_some ha, position?_mergeNode_of_some hb, hl⟩

/-- A link between two nodes that are found is the link between their keys, and no other. -/
theorem hasLink_bindLink (h : g.Keyed) {l : Link} {a b : Nat}
    (ha : g.position? l.source = some a) (hb : g.position? l.target = some b) (l' : Link) :
    (g.bindLink ⟨a, l.relation, b⟩).HasLink l' ↔ l' = l ∨ g.HasLink l' := by
  rw [(h.bindLink (lt_of_position? ha) (lt_of_position? hb)).hasLink_iff, h.hasLink_iff]
  simp only [position?_bindLink, mem_links_bindLink]
  constructor
  · rintro ⟨a', b', ha', hb', hl | hl⟩
    · exact .inr ⟨a', b', ha', hb', hl⟩
    · obtain ⟨rfl, hrelation, rfl⟩ := Edge.mk.inj hl
      have hsource := (keys_of_position? ha').symm.trans (keys_of_position? ha)
      have htarget := (keys_of_position? hb').symm.trans (keys_of_position? hb)
      cases l
      cases l'
      cases hsource
      cases hrelation
      cases htarget
      exact .inl rfl
  · rintro (rfl | ⟨a', b', ha', hb', hl⟩)
    · exact ⟨a, b, ha, hb, .inr rfl⟩
    · exact ⟨a', b', ha', hb', .inl hl⟩

/-- Naming a file draws no link and deletes none. -/
theorem hasLink_assign_name {path : String} (h : g.position? (.file path) = some i)
    (name : String) (l : Link) : (g.assign i "name" name).HasLink l ↔ g.HasLink l := by
  rw [HasLink, keys_assign_name h]
  rfl

/-- An upsert adds the link it asks for and no other. -/
theorem hasLink_merge (h : g.Keyed) (op : Upsert) (l : Link) :
    (g.merge op).HasLink l ↔ op.link? = some l ∨ g.HasLink l := by
  obtain ⟨path, name, rfl⟩ | ⟨l', hl', -⟩ := op.file_or_link
  · have hnone : Upsert.link? (.file path name) ≠ some l := fun hl => by cases hl
    rw [or_iff_right hnone, ← hasLink_mergeNode h (.file path)]
    exact hasLink_assign_name (position?_mergeNode_self g _) name l
  · have h₁ := h.mergeNode l'.source
    have hsource := position?_mergeNode_self g l'.source
    have htarget := position?_mergeNode_self (g.mergeNode l'.source).2 l'.target
    rw [merge_of_link hl', hl', Option.some.injEq, eq_comm, mergeLink,
      hasLink_bindLink (h₁.mergeNode l'.target) (position?_mergeNode_of_some hsource) htarget,
      hasLink_mergeNode h₁, hasLink_mergeNode h]

/-! ## What an upsert leaves alone -/

end PropertyGraph

/-- What an upsert makes of a node: the file that it names gets the name. -/
def PropertyNode.after (n : PropertyNode) : Upsert → PropertyNode
  | .file path name => if n.key? = some (.file path) then n.set "name" name else n
  | _ => n

/-- An upsert that asks for a link changes no node that was there. -/
theorem PropertyNode.after_of_link {op : Upsert} {l : Link} (hl : op.link? = some l)
    (n : PropertyNode) : n.after op = n := by
  cases op with
  | file path name => cases hl
  | _ => rfl

namespace PropertyGraph

variable {g : PropertyGraph} {k k' : NodeKey} {i : Nat}

/-- **An upsert makes what it needs and no more**: old nodes and links stay in their places and are
as before, apart from the name that is given; a new node has a key that was missing and no
properties but those of the key, and the name that is given; a new link is the one that was
missing. -/
structure Extends (op : Upsert) (g g' : PropertyGraph) : Prop where
  kept : ∀ (i : Nat) (n : PropertyNode), g.nodes[i]? = some n → g'.nodes[i]? = some (n.after op)
  made : ∀ n ∈ g'.nodes.drop g.nodes.length, ∃ k ∈ op.nodes, ¬ g.HasNode k ∧
    n = (PropertyNode.ofValues k.label k.values).after op
  links : g'.links = g.links ∨ ∃ l a b, op.link? = some l ∧ ¬ g.HasLink l ∧
    g'.position? l.source = some a ∧ g'.position? l.target = some b ∧
    g'.links = g.links ++ [⟨a, l.relation, b⟩]

/-- `mergeNode` leaves the nodes that were there at their positions. -/
theorem getElem?_mergeNode {n : PropertyNode} (h : g.nodes[i]? = some n) (k : NodeKey) :
    (g.mergeNode k).2.nodes[i]? = some n := by
  cases hk : g.position? k with
  | some j => rwa [mergeNode_of_some hk]
  | none =>
    rw [mergeNode_of_none hk, List.getElem?_append_left (List.getElem?_eq_some_iff.1 h).1, h]

/-- `mergeNode` deletes no node. -/
theorem length_le_mergeNode (g : PropertyGraph) (k : NodeKey) :
    g.nodes.length ≤ (g.mergeNode k).2.nodes.length := by
  cases hk : g.position? k with
  | some j => rw [mergeNode_of_some hk]
  | none => simp [mergeNode_of_none hk]

/-- A node that `mergeNode k` made is the bare one of the key `k`, which was missing. -/
theorem mem_drop_mergeNode {n : PropertyNode} {m : Nat} (hm : m ≤ g.nodes.length)
    (h : n ∈ (g.mergeNode k).2.nodes.drop m) :
    n ∈ g.nodes.drop m ∨ ¬ g.HasNode k ∧ n = .ofValues k.label k.values := by
  cases hk : g.position? k with
  | some j =>
    rw [mergeNode_of_some hk] at h
    exact .inl h
  | none =>
    rw [mergeNode_of_none hk, List.drop_append_of_le_length hm, List.mem_append,
      List.mem_singleton] at h
    exact h.imp_right fun hn => ⟨position?_eq_none_iff.1 hk, hn⟩

/-- `mergeFile` does to a `Keyed` graph what `Extends` allows its upsert. -/
theorem extends_mergeFile (hg : g.Keyed) (path name : String) :
    Extends (.file path name) g (g.mergeFile path name) := by
  have hself := position?_mergeNode_self g (.file path)
  refine ⟨fun i n hn => ?_, fun n hn => ?_, .inl (links_mergeNode g (.file path))⟩
  · have hn' := getElem?_mergeNode hn (.file path)
    -- the node that is named is the one with the key of the file
    have hnamed : (g.mergeNode (.file path)).1 = i ↔ n.key? = some (.file path) := by
      rw [← Option.some_inj, ← hself, (hg.mergeNode _).position?_iff, keys_getElem?, hn',
        Option.map_some, Option.some_inj]
    rw [mergeFile_eq, assign, List.getElem?_modify, hn', PropertyNode.after]
    by_cases h : (g.mergeNode (.file path)).1 = i
    · simp [h, hnamed.1 h]
    · simp [h, mt hnamed.2 h]
  · cases hk : g.position? (.file path) with
    | some i =>
      rw [mergeFile_eq, mergeNode_of_some hk, assign, List.drop_of_length_le (by simp)] at hn
      cases hn
    | none =>
      rw [mergeFile_eq, mergeNode_of_none hk, assign, List.modify_eq_take_drop] at hn
      simp only [List.take_left, List.drop_left, List.modifyHead_cons] at hn
      refine ⟨.file path, List.mem_singleton_self _, position?_eq_none_iff.1 hk, ?_⟩
      rw [PropertyNode.after, if_pos (PropertyNode.key?_ofValues (.file path))]
      exact List.mem_singleton.1 hn

/-- `mergeLink` does to a `Keyed` graph what `Extends` allows the upsert that asks for the link. -/
theorem extends_mergeLink (hg : g.Keyed) {op : Upsert} {l : Link} (hl : op.link? = some l)
    (hnodes : op.nodes = [l.source, l.target]) : Extends op g (g.mergeLink l) := by
  have hsource := position?_mergeNode_of_some (k := l.target) (position?_mergeNode_self g l.source)
  have htarget := position?_mergeNode_self (g.mergeNode l.source).2 l.target
  refine ⟨fun i n hn => ?_, fun n hn => ?_, ?_⟩
  · rw [PropertyNode.after_of_link hl, mergeLink, nodes_bindLink]
    exact getElem?_mergeNode (getElem?_mergeNode hn _) _
  · rw [mergeLink, nodes_bindLink] at hn
    simp only [PropertyNode.after_of_link hl, hnodes]
    rcases mem_drop_mergeNode (length_le_mergeNode g l.source) hn with hn | ⟨hnew, hn⟩
    · rcases mem_drop_mergeNode le_rfl hn with hn | ⟨hnew, hn⟩
      · simp at hn
      · exact ⟨l.source, by simp, hnew, hn⟩
    · exact ⟨l.target, by simp, fun hold => hnew ((hasNode_mergeNode ..).2 (.inr hold)), hn⟩
  · simp only [mergeLink, position?_bindLink]
    rw [bindLink]
    split
    · exact .inl (by simp)
    · next hnew =>
      refine .inr ⟨l, _, _, hl, fun hold => hnew ?_, hsource, htarget, by simp⟩
      rw [← hasLink_mergeNode hg l.source, ← hasLink_mergeNode (hg.mergeNode _) l.target,
        ((hg.mergeNode _).mergeNode _).hasLink_iff] at hold
      obtain ⟨a, b, ha, hb, hmem⟩ := hold
      cases hsource.symm.trans ha
      cases htarget.symm.trans hb
      exact hmem

/-- **One upsert `Extends` a `Keyed` graph**, whichever constructor it has. -/
theorem extends_merge (hg : g.Keyed) (op : Upsert) : Extends op g (g.merge op) := by
  obtain ⟨path, name, rfl⟩ | ⟨l, hl, hnodes⟩ := op.file_or_link
  · exact extends_mergeFile hg path name
  · rw [merge_of_link hl]
    exact extends_mergeLink hg hl hnodes

end PropertyGraph

end CodeGraph
