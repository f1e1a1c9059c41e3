import CodeGraph.Proofs.Graph.Observers

/-! # What a graph remembers of its history

The upserts made so far decide what is seen of a graph. Nodes and links are only ever added, so that
one is there exactly if some upsert said so; the name of a file is the one given last. Each fact is
shown for one upsert first (`containsNode_merge`, `hasLink_merge`, `fileName?_merge`) and then, by
induction, for any number of them on top of any consistent graph. -/

namespace CodeGraph

/-! ## Names given by upserts -/

namespace Upsert

/-- The name that an upsert gives to the file at a path. -/
def nameFor? (path : String) : Upsert → Option String
  | file p name => if p = path then some name else none
  | _ => none

/-- The name that upserts give to the file at a path last. -/
def lastName? (path : String) : List Upsert → Option String
  | [] => none
  | op :: ops => (lastName? path ops).or (op.nameFor? path)

/-- `nameFor?` gives a name exactly for the upsert that names this very path. -/
theorem nameFor?_eq_some_iff {path name : String} {op : Upsert} :
    op.nameFor? path = some name ↔ op = .file path name := by
  cases op with
  | file p n =>
    rw [nameFor?, file.injEq]
    split
    · next hp => rw [Option.some.injEq, and_iff_right hp]
    · next hp =>
      constructor
      · intro h
        cases h
      · rintro ⟨hp', -⟩
        exact absurd hp' hp
  | _ => simp [nameFor?]

/-- An upsert with a link gives no name. -/
theorem nameFor?_of_link {path : String} {op : Upsert} {l : Link} (h : op.link? = some l) :
    op.nameFor? path = none := by
  cases op <;> first | rfl | cases h

/-- The last name over a concatenation is the later part's, or the earlier part's if that has
none. -/
theorem lastName?_append (path : String) (ops ops' : List Upsert) :
    lastName? path (ops ++ ops') = (lastName? path ops').or (lastName? path ops) := by
  induction ops with
  | nil => rw [List.nil_append, lastName?, Option.or_none]
  | cons op ops ih => rw [List.cons_append, lastName?, ih, lastName?, Option.or_assoc]

/-- `lastName?` gives nothing exactly when no upsert of the list names the path. -/
theorem lastName?_eq_none_iff {path : String} {ops : List Upsert} :
    lastName? path ops = none ↔ ∀ name, .file path name ∉ ops := by
  induction ops with
  | nil => simp [lastName?]
  | cons op ops ih =>
    rw [lastName?, Option.or_eq_none_iff, ih]
    constructor
    · rintro ⟨hops, hop⟩ name hmem
      rcases List.mem_cons.1 hmem with rfl | hmem
      · rw [nameFor?_eq_some_iff.2 rfl] at hop
        cases hop
      · exact hops name hmem
    · intro h
      refine ⟨fun name hmem => h name (List.mem_cons_of_mem op hmem), ?_⟩
      rw [Option.eq_none_iff_forall_ne_some]
      intro name hop
      exact h name (List.mem_cons.2 (.inl (nameFor?_eq_some_iff.1 hop).symm))

/-- The last name is that of a naming after which there is no other. -/
theorem lastName?_eq_some_iff {path name : String} {ops : List Upsert} :
    lastName? path ops = some name ↔
      ∃ before after, ops = before ++ .file path name :: after ∧
        ∀ other, .file path other ∉ after := by
  induction ops with
  | nil => simp [lastName?]
  | cons op ops ih =>
    rw [lastName?, Option.or_eq_some_iff, ih, lastName?_eq_none_iff, nameFor?_eq_some_iff]
    constructor
    · rintro (⟨before, after, rfl, hafter⟩ | ⟨hops, rfl⟩)
      · exact ⟨op :: before, after, rfl, hafter⟩
      · exact ⟨[], ops, rfl, hops⟩
    · rintro ⟨_ | ⟨op', before⟩, after, heq, hafter⟩
      · obtain ⟨rfl, rfl⟩ := List.cons.inj heq
        exact .inr ⟨hafter, rfl⟩
      · obtain ⟨rfl, rfl⟩ := List.cons.inj heq
        exact .inl ⟨before, after, rfl, hafter⟩

end Upsert

namespace Store

variable {s : Store}

/-! ## Nodes -/

/-- `mergeNode k` adds `k` to the nodes a store contains and nothing else. -/
theorem containsNode_mergeNode (s : Store) (k k' : NodeKey) :
    (s.mergeNode k).2.containsNode k' ↔ k' = k ∨ s.containsNode k' := by
  rw [containsNode_iff_index, containsNode_iff_index, index_mergeNode]
  split
  · next hk => simp [hk]
  · next hk =>
    rw [or_iff_right (Ne.symm hk)]

/-- `mergeLink l` adds the two ends of `l` to the nodes a store contains. -/
theorem containsNode_mergeLink (s : Store) (l : Link) (k : NodeKey) :
    (s.mergeLink l).containsNode k ↔ k ∈ [l.source, l.target] ∨ s.containsNode k := by
  have hedge : (s.mergeLink l).containsNode k
      ↔ ((s.mergeNode l.source).2.mergeNode l.target).2.containsNode k := by
    rw [mergeLink, containsNode, containsNode, index_mergeEdge]
  rw [hedge, containsNode_mergeNode, containsNode_mergeNode, List.mem_pair, ← or_assoc,
    or_comm (a := k = l.target)]

/-- **One step**: an upsert adds its nodes. -/
theorem containsNode_merge (s : Store) (op : Upsert) (k : NodeKey) :
    (s.merge op).containsNode k ↔ k ∈ op.nodes ∨ s.containsNode k := by
  obtain ⟨path, name, rfl⟩ | ⟨l, hl, hnodes⟩ := op.file_or_link
  · rw [Upsert.nodes, List.mem_singleton]
    exact containsNode_mergeNode s (.file path) k
  · rw [merge_of_link hl, hnodes]
    exact containsNode_mergeLink s l k

/-- After `mergeAll` a store contains the nodes its upserts mention and those it had. -/
theorem containsNode_mergeAll (s : Store) (ops : List Upsert) (k : NodeKey) :
    (s.mergeAll ops).containsNode k ↔ (∃ op ∈ ops, k ∈ op.nodes) ∨ s.containsNode k := by
  induction ops generalizing s with
  | nil => simp
  | cons op ops ih =>
    rw [mergeAll_cons, ih, containsNode_merge, List.exists_mem_cons_iff, ← or_assoc,
      or_comm (a := ∃ op ∈ ops, k ∈ op.nodes)]

/-! ## Links -/

/-- An old number belongs to an old key. -/
theorem index_of_mergeNode {k k' : NodeKey} {i : Nat}
    (hi : (s.mergeNode k).2.index[k']? = some i) (hlt : i < s.nodes.size) :
    s.index[k']? = some i := by
  cases hk : s.index[k]? with
  | some j => rwa [mergeNode_of_some hk] at hi
  | none =>
    rw [mergeNode_of_none hk, Std.HashMap.getElem?_insert] at hi
    split at hi
    · cases hi
      omega
    · exact hi

/-- A new node has no links. -/
theorem hasLink_mergeNode (h : s.Consistent) (k : NodeKey) (l : Link) :
    (s.mergeNode k).2.hasLink l ↔ s.hasLink l := by
  rw [hasLink_iff_linked, hasLink_iff_linked, linked_mergeNode]
  constructor
  · rintro ⟨a, b, ha, hb, hl⟩
    obtain ⟨hlta, hltb⟩ := h.ends _ ((h.linked_iff _).1 hl)
    exact ⟨a, b, index_of_mergeNode ha hlta, index_of_mergeNode hb hltb, hl⟩
  · rintro ⟨a, b, ha, hb, hl⟩
    exact ⟨a, b, index_mergeNode_of_some ha, index_mergeNode_of_some hb, hl⟩

/-- An edge between two known nodes is the link between their keys, and no other. -/
theorem hasLink_mergeEdge (h : s.Consistent) {l : Link} {a b : Nat}
    (ha : s.index[l.source]? = some a) (hb : s.index[l.target]? = some b) (l' : Link) :
    (s.mergeEdge ⟨a, l.relation, b⟩).hasLink l' ↔ l' = l ∨ s.hasLink l' := by
  rw [hasLink_iff_linked, hasLink_iff_linked, index_mergeEdge]
  simp only [mem_linked_mergeEdge]
  constructor
  · rintro ⟨a', b', ha', hb', hl | hl⟩
    · exact .inr ⟨a', b', ha', hb', hl⟩
    · obtain ⟨rfl, hrelation, rfl⟩ := Edge.mk.inj hl
      have hsource := h.key_eq ha' ha
      have htarget := h.key_eq hb' hb
      cases l
      cases l'
      cases hsource
      cases hrelation
      cases htarget
      exact .inl rfl
  · rintro (rfl | ⟨a', b', ha', hb', hl⟩)
    · exact ⟨a, b, ha, hb, .inr rfl⟩
    · exact ⟨a', b', ha', hb', .inl hl⟩

/-- `mergeLink l` adds `l` to the links a store has and nothing else. -/
theorem hasLink_mergeLink (h : s.Consistent) (l l' : Link) :
    (s.mergeLink l).hasLink l' ↔ l' = l ∨ s.hasLink l' := by
  have h₁ := consistent_mergeNode h l.source
  have h₂ := consistent_mergeNode h₁ l.target
  have hsource := index_mergeNode_self s l.source
  have htarget := index_mergeNode_self (s.mergeNode l.source).2 l.target
  rw [mergeLink, hasLink_mergeEdge h₂ (index_mergeNode_of_some hsource) htarget,
    hasLink_mergeNode h₁, hasLink_mergeNode h]

/-- **One step**: an upsert adds its link. -/
theorem hasLink_merge (h : s.Consistent) (op : Upsert) (l : Link) :
    (s.merge op).hasLink l ↔ op.link? = some l ∨ s.hasLink l := by
  obtain ⟨path, name, rfl⟩ | ⟨l', hl', -⟩ := op.file_or_link
  · have hnone : Upsert.link? (.file path name) ≠ some l := nofun
    rw [or_iff_right hnone]
    exact hasLink_mergeNode h (.file path) l
  · rw [merge_of_link hl', hasLink_mergeLink h, hl', Option.some.injEq, eq_comm]

/-- After `mergeAll` a store has the links its upserts ask for and those it had. -/
theorem hasLink_mergeAll (h : s.Consistent) (ops : List Upsert) (l : Link) :
    (s.mergeAll ops).hasLink l ↔ (∃ op ∈ ops, op.link? = some l) ∨ s.hasLink l := by
  induction ops generalizing s with
  | nil => simp
  | cons op ops ih =>
    rw [mergeAll_cons, ih (consistent_merge h op), hasLink_merge h, List.exists_mem_cons_iff,
      ← or_assoc, or_comm (a := ∃ op ∈ ops, op.link? = some l)]

/-! ## Names -/

/-- `fileName?` reads the name field of the node the path's key is indexed at. -/
theorem fileName?_eq (s : Store) (path : String) :
    s.fileName? path
      = (s.index[NodeKey.file path]?).bind fun i => (s.nodes[i]?).bind Node.name := by
  rw [fileName?]
  cases s.index[NodeKey.file path]? <;> rfl

/-- A new node has no name. -/
theorem fileName?_mergeNode (h : s.Consistent) (k : NodeKey) (path : String) :
    (s.mergeNode k).2.fileName? path = s.fileName? path := by
  cases hk : s.index[k]? with
  | some i => rw [mergeNode_of_some hk]
  | none =>
    rw [mergeNode_of_none hk, fileName?_eq, fileName?_eq, Std.HashMap.getElem?_insert]
    simp only [Array.getElem?_push]
    split
    · next hpath =>
      rw [beq_iff_eq] at hpath
      rw [← hpath, hk, Option.bind_some, if_pos rfl]
      rfl
    · cases hi : s.index[NodeKey.file path]? with
      | none => rfl
      | some i => rw [Option.bind_some, Option.bind_some, if_neg (Nat.ne_of_lt (h.index_lt hi))]

/-- Drawing an edge renames no file. -/
theorem fileName?_mergeEdge (s : Store) (e : Edge) (path : String) :
    (s.mergeEdge e).fileName? path = s.fileName? path := by
  rw [fileName?_eq, fileName?_eq, index_mergeEdge, nodes_mergeEdge]

/-- A name goes to the file that is named and to no other. -/
theorem fileName?_nameNode (h : s.Consistent) {path : String} {i : Nat}
    (hi : s.index[NodeKey.file path]? = some i) (name path' : String) :
    (s.nameNode i name).fileName? path'
      = if path = path' then some name else s.fileName? path' := by
  rw [fileName?_eq, fileName?_eq]
  show (s.index[NodeKey.file path']?).bind _ = _
  simp only [nodes_nameNode]
  split
  · next hpath =>
    subst hpath
    obtain ⟨n, hn, -⟩ := (h.index_iff _ _).1 hi
    rw [hi, Option.bind_some, if_pos rfl, hn]
    rfl
  · next hpath =>
    cases hj : s.index[NodeKey.file path']? with
    | none => rfl
    | some j =>
      have hij : i ≠ j := by
        rintro rfl
        exact hpath (NodeKey.file.inj (h.key_eq hi hj))
      rw [Option.bind_some, Option.bind_some, if_neg hij]

/-- **One step**: an upsert replaces the name that it gives, and no other. -/
theorem fileName?_merge (h : s.Consistent) (op : Upsert) (path : String) :
    (s.merge op).fileName? path = (op.nameFor? path).or (s.fileName? path) := by
  obtain ⟨path', name, rfl⟩ | ⟨l, hl, -⟩ := op.file_or_link
  · rw [merge, mergeFile_eq, fileName?_nameNode (consistent_mergeNode h _)
      (index_mergeNode_self s _), fileName?_mergeNode h, Upsert.nameFor?]
    split <;> rfl
  · rw [merge_of_link hl, Upsert.nameFor?_of_link hl, Option.none_or, mergeLink,
      fileName?_mergeEdge, fileName?_mergeNode (consistent_mergeNode h _), fileName?_mergeNode h]

/-- After `mergeAll` a file has the last name the upserts give it, or the name it had. -/
theorem fileName?_mergeAll (h : s.Consistent) (ops : List Upsert) (path : String) :
    (s.mergeAll ops).fileName? path = (Upsert.lastName? path ops).or (s.fileName? path) := by
  induction ops generalizing s with
  | nil => rfl
  | cons op ops ih =>
    rw [mergeAll_cons, ih (consistent_merge h op), fileName?_merge h, Upsert.lastName?,
      Option.or_assoc]

/-! ## Calls -/

/-- What a history leaves in a store: the nodes its upserts mention, and those that were there. -/
theorem containsNode_performAll (s : Store) (calls : List Call) (k : NodeKey) :
    (s.performAll calls).containsNode k
      ↔ (∃ op ∈ Call.allOps calls, k ∈ op.nodes) ∨ s.containsNode k := by
  obtain ⟨n, hn⟩ := performAll_eq s calls
  rw [hn]
  exact containsNode_mergeAll s _ k

/-- What a history leaves in a store: the links its upserts ask for, and those that were there. -/
theorem hasLink_performAll (h : s.Consistent) (calls : List Call) (l : Link) :
    (s.performAll calls).hasLink l
      ↔ (∃ op ∈ Call.allOps calls, op.link? = some l) ∨ s.hasLink l := by
  obtain ⟨n, hn⟩ := performAll_eq s calls
  rw [hn]
  exact hasLink_mergeAll h _ l

/-- What a history leaves as a file's name: the last one given, or the one that was there. -/
theorem fileName?_performAll (h : s.Consistent) (calls : List Call) (path : String) :
    (s.performAll calls).fileName? path
      = (Upsert.lastName? path (Call.allOps calls)).or (s.fileName? path) := by
  obtain ⟨n, hn⟩ := performAll_eq s calls
  rw [hn]
  exact fileName?_mergeAll h _ path

/-- `Store.empty` contains no node. -/
theorem containsNode_empty (k : NodeKey) : ¬ empty.containsNode k := by
  simp [containsNode, empty]

/-- `Store.empty` has no link. -/
theorem hasLink_empty (l : Link) : ¬ empty.hasLink l := by
  simp [hasLink, empty]

/-- `Store.empty` knows no file's name. -/
theorem fileName?_empty (path : String) : empty.fileName? path = none := by
  simp [fileName?, empty]

/-- **The history decides what is seen**, for any calls on an empty graph: a node or link is there
exactly if one of the upserts has it, and a file has the name of its last naming, or none if there
is no naming, whatever other upserts mention the file. -/
theorem history_decides (calls : List Call) :
    let s := empty.performAll calls
    let ops := Call.allOps calls
    (∀ k, s.containsNode k ↔ ∃ op ∈ ops, k ∈ op.nodes) ∧
      (∀ l, s.hasLink l ↔ ∃ op ∈ ops, op.link? = some l) ∧
      (∀ path name, s.fileName? path = some name ↔
        ∃ before after, ops = before ++ .file path name :: after ∧
          ∀ other, .file path other ∉ after) ∧
      ∀ path, s.fileName? path = none ↔ ∀ name, .file path name ∉ ops := by
  intro s ops
  have hname : ∀ path, s.fileName? path = Upsert.lastName? path ops := by
    intro path
    rw [fileName?_performAll consistent_empty calls path, fileName?_empty, Option.or_none]
  refine ⟨fun k => ?_, fun l => ?_, fun path name => ?_, fun path => ?_⟩
  · rw [containsNode_performAll, or_iff_left (containsNode_empty k)]
  · rw [hasLink_performAll consistent_empty, or_iff_left (hasLink_empty l)]
  · rw [hname, Upsert.lastName?_eq_some_iff]
  · rw [hname, Upsert.lastName?_eq_none_iff]

end Store

end CodeGraph
