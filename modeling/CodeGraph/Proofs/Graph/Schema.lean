import CodeGraph.Proofs.Graph.History

/-! # The schema of the graph

`Link.Conforms` lists the links that a graph may have, with the nodes at both ends. It is made of
the same shapes as the links of upserts (`conforms_iff`), and since a graph has no other links than
those of the upserts made on it, all its links conform (`Store.conforms_of_mem_links`).

A link of a conforming graph from a function or class to its file is known by where it starts, so
that no node has two of them (`Link.Conforms.eq_of_source`). -/

namespace CodeGraph

namespace Link

/-- **The links of the schema.** The ends of a link tell the file that it belongs to; only the file
of a class that another one inherits from is not known. -/
inductive Conforms : Link → Prop
  /-- A function is defined in its own file. -/
  | functionDefined (name file : String) : Conforms ⟨.function name file, .definedIn, .file file⟩
  /-- A class is defined in its own file. -/
  | classDefined (name file : String) : Conforms ⟨.class name file, .definedIn, .file file⟩
  /-- A function is used in its own file. -/
  | used (name file : String) : Conforms ⟨.function name file, .usedIn, .file file⟩
  /-- A file imports a file. -/
  | imported (source target : String) : Conforms ⟨.file source, .imports, .file target⟩
  /-- A function calls a function of the same file. -/
  | called (caller callee file : String) :
      Conforms ⟨.function caller file, .calls, .function callee file⟩
  /-- A class inherits from a class of no known file. -/
  | inherited (child file parent : String) :
      Conforms ⟨.class child file, .inherits, .class parent ""⟩

/-- **The schema is what upserts say**: a link conforms exactly if some upsert has it. -/
theorem conforms_iff {l : Link} : l.Conforms ↔ ∃ op : Upsert, op.link? = some l := by
  constructor
  · intro h
    cases h with
    | functionDefined name file => exact ⟨.definition .function name file, rfl⟩
    | classDefined name file => exact ⟨.definition .classType name file, rfl⟩
    | used name file => exact ⟨.use name file, rfl⟩
    | imported source target => exact ⟨.imports source target, rfl⟩
    | called caller callee file => exact ⟨.call caller callee file, rfl⟩
    | inherited child file parent => exact ⟨.inherits child file parent, rfl⟩
  · rintro ⟨op, hop⟩
    cases op with
    | file path name => cases hop
    | definition kind name file =>
      cases kind with
      | function => exact Option.some.inj hop ▸ .functionDefined name file
      | classType => exact Option.some.inj hop ▸ .classDefined name file
    | inherits child file parent => exact Option.some.inj hop ▸ .inherited child file parent
    | imports source target => exact Option.some.inj hop ▸ .imported source target
    | call caller callee file => exact Option.some.inj hop ▸ .called caller callee file
    | use callee file => exact Option.some.inj hop ▸ .used callee file

namespace Conforms

variable {l l' : Link}

/-- A link to the file of a function or class is known by its kind and its source. -/
theorem eq_of_source (h : l.Conforms) (h' : l'.Conforms)
    (hkind : l.relation = .definedIn ∨ l.relation = .usedIn) (hrelation : l'.relation = l.relation)
    (hsource : l'.source = l.source) : l' = l := by
  cases h with
  | imported | called | inherited => rcases hkind with hkind | hkind <;> cases hkind
  | functionDefined name file =>
    cases h' <;> cases hrelation <;> cases hsource
    rfl
  | classDefined name file =>
    cases h' <;> cases hrelation <;> cases hsource
    rfl
  | used name file =>
    cases h' <;> cases hrelation
    cases hsource
    rfl

/-- A call stays in its file. -/
theorem exists_file_of_calls (h : l.Conforms) (hcalls : l.relation = .calls) :
    ∃ caller callee file, l = ⟨.function caller file, .calls, .function callee file⟩ := by
  cases h with
  | called caller callee file => exact ⟨caller, callee, file, rfl⟩
  | _ => cases hcalls

end Conforms

end Link

/-- A list without repetitions in which all members are equal has at most one. -/
theorem length_le_one_of_nodup {α : Type} {xs : List α} (hnodup : xs.Nodup)
    (h : ∀ a ∈ xs, ∀ b ∈ xs, a = b) : xs.length ≤ 1 := by
  cases xs with
  | nil => exact Nat.zero_le 1
  | cons a rest =>
    cases rest with
    | nil => exact Nat.le_refl 1
    | cons b rest =>
      have hab : a = b := h a (by simp) b (by simp)
      simp [hab] at hnodup

namespace Store

/-- The links of one kind that start at a node. -/
def linksFrom (s : Store) (k : NodeKey) (relation : Relation) : List Link :=
  s.links.filter fun l => l.source == k && l.relation == relation

/-- `linksFrom` lists the links of the store that start at the node and are of the relation. -/
theorem mem_linksFrom {s : Store} {k : NodeKey} {relation : Relation} {l : Link} :
    l ∈ s.linksFrom k relation ↔ l ∈ s.links ∧ l.source = k ∧ l.relation = relation := by
  simp [linksFrom]

/-- **All links conform**, after any calls on the empty graph. -/
theorem conforms_of_mem_links (calls : List Call) {l : Link}
    (h : l ∈ (empty.performAll calls).links) : l.Conforms := by
  have hconsistent := consistent_performAll consistent_empty calls
  rw [← hasLink_iff hconsistent, hasLink_performAll consistent_empty,
    or_iff_left (hasLink_empty l)] at h
  obtain ⟨op, -, hop⟩ := h
  exact Link.conforms_iff.2 ⟨op, hop⟩

/-- A node has at most one link of a kind that leads to the file of its source. -/
theorem length_linksFrom_le_one (calls : List Call) (k : NodeKey) {relation : Relation}
    (hkind : relation = .definedIn ∨ relation = .usedIn) :
    ((empty.performAll calls).linksFrom k relation).length ≤ 1 := by
  have hconsistent := consistent_performAll consistent_empty calls
  refine length_le_one_of_nodup ((links_nodup hconsistent).filter _) fun l hl l' hl' => ?_
  obtain ⟨hmem, rfl, rfl⟩ := mem_linksFrom.1 hl
  obtain ⟨hmem', hsource, hrelation⟩ := mem_linksFrom.1 hl'
  exact ((conforms_of_mem_links calls hmem).eq_of_source (conforms_of_mem_links calls hmem') hkind
    hrelation hsource).symm

/-- **A graph keeps to its schema**, after any calls that lead to it from the empty graph, whatever
the texts in them. Every edge is of one of the six shapes, with the file of its source as the file
of its target wherever the schema says so; no node is defined in two files or used in two files; and
no call leads from one file to another. The links that are found one by one are of the same shapes,
and each link of such a shape is there in some graph. -/
theorem schema_kept (calls : List Call) :
    let s := empty.performAll calls
    (∀ e ∈ s.edges, (s.linkOf e).Conforms) ∧
      (∀ l, s.hasLink l → l.Conforms) ∧
      (∀ k, (s.linksFrom k .definedIn).length ≤ 1 ∧ (s.linksFrom k .usedIn).length ≤ 1) ∧
      (∀ l ∈ s.links, l.relation = .calls →
        ∃ caller callee file, l = ⟨.function caller file, .calls, .function callee file⟩) ∧
      ∀ l : Link, l.Conforms → ∃ op, (s.merge op).hasLink l := by
  intro s
  have hconsistent : s.Consistent := consistent_performAll consistent_empty calls
  refine ⟨fun e he => ?_, fun l hl => ?_, fun k => ?_, fun l hl hcalls => ?_, fun l hl => ?_⟩
  · exact conforms_of_mem_links calls (List.mem_map_of_mem (Array.mem_toList_iff.2 he))
  · exact conforms_of_mem_links calls ((hasLink_iff hconsistent l).1 hl)
  · exact ⟨length_linksFrom_le_one calls k (.inl rfl), length_linksFrom_le_one calls k (.inr rfl)⟩
  · exact (conforms_of_mem_links calls hl).exists_file_of_calls hcalls
  · obtain ⟨op, hop⟩ := Link.conforms_iff.1 hl
    exact ⟨op, (hasLink_merge hconsistent op l).2 (.inl hop)⟩

end Store

end CodeGraph
