import CodeGraph.Proofs.Graph.Planning

/-! # What writing a file leaves alone

The facts of a file are written on top of any graph. What is there afterwards is what was there
before together with the nodes and links of the file (`Store.containsNode_write`,
`Store.hasLink_write`), and of all names only that of the file is set (`Store.fileName?_write`). The
links of a file start at the file or at a function or class in it (`Plan.path_of_mem_linksOf`),
and its nodes are in it but for the files that it imports and the classes of which it knows the name
alone (`Plan.of_mem_nodesOf`). So a file can only change its own part of the graph
(`Store.write_keeps_to_its_file`). -/

namespace CodeGraph

/-- What belongs to a file is the file and the functions and classes in it. -/
theorem NodeKey.path_eq_iff {k : NodeKey} {path : String} :
    k.path = path ↔
      k = .file path ∨ (∃ name, k = .function name path) ∨ ∃ name, k = .class name path := by
  cases k <;> simp [NodeKey.path]

/-! ## The part of a file -/

namespace Plan

variable {facts : FileFacts} {resolved : List String}

/-- **The nodes of a file are in it**, but for the files that it imports and the classes from which
its own inherit. -/
theorem of_mem_nodesOf {label : NodeLabel} {k : NodeKey} (h : k ∈ nodesOf facts resolved label) :
    k.path = facts.path ∨ (∃ target ∈ resolved, k = .file target) ∨
      ∃ c ∈ facts.classes, ∃ base ∈ c.bases, k = .class base Upsert.unknownFile := by
  cases label with
  | file =>
    rcases List.mem_cons.1 h with rfl | h
    · exact .inl rfl
    · obtain ⟨target, htarget, rfl⟩ := List.mem_map.1 h
      exact .inr (.inl ⟨target, htarget, rfl⟩)
  | function =>
    obtain ⟨name, -, rfl⟩ := List.mem_map.1 h
    exact .inl rfl
  | classType =>
    rcases List.mem_append.1 h with h | h
    · obtain ⟨c, -, rfl⟩ := List.mem_map.1 h
      exact .inl rfl
    · obtain ⟨p, hp, rfl⟩ := List.mem_map.1 h
      obtain ⟨c, hc, -, hbase⟩ := FileFacts.mem_basePairs.1 hp
      exact .inr (.inr ⟨c, hc, p.2, hbase, rfl⟩)

end Plan

/-! ## The graph after a file was written -/

namespace Store

variable {s : Store}

/-- The graph after the facts of a file were written. -/
def write (s : Store) (facts : FileFacts) (resolved : List String) : Store :=
  (Backend.memory.write facts resolved s).value.2

variable (facts : FileFacts) (resolved : List String)

/-- `Store.write` of a file's facts is the history of the calls planned for it. -/
theorem write_eq (s : Store) :
    s.write facts resolved = s.performAll (Plan.calls [(facts, resolved)]) := rfl

/-- `Store.write` adds the nodes planned for the file, and no others. -/
theorem containsNode_write (s : Store) (k : NodeKey) :
    (s.write facts resolved).containsNode k ↔
      k ∈ Plan.nodesOf facts resolved k.label ∨ s.containsNode k := by
  rw [write_eq, containsNode_performAll, exists_mem_allOps, Plan.mem_nodesOf, and_iff_right rfl]
  simp only [List.mem_singleton, exists_eq_left]

/-- `Store.write` adds the links planned for the file, and no others. -/
theorem hasLink_write (h : s.Consistent) (l : Link) :
    (s.write facts resolved).hasLink l ↔
      l ∈ Plan.linksOf facts resolved l.relation ∨ s.hasLink l := by
  rw [write_eq, hasLink_performAll h, exists_mem_allOps, Plan.mem_linksOf, and_iff_right rfl]
  simp only [List.mem_singleton, exists_eq_left]

/-- The file gets its name, and all others keep theirs. -/
theorem fileName?_write (h : s.Consistent) (path : String) :
    (s.write facts resolved).fileName? path
      = if facts.path = path then some facts.name else s.fileName? path := by
  -- a plan begins with the naming of the file, and no other upsert of it gives a name
  obtain ⟨rest, hops, hrest⟩ := Plan.exists_toList_ops_eq_cons facts resolved
  have hlast : Upsert.lastName? path rest = none :=
    Upsert.lastName?_eq_none_iff.2 (hrest path)
  have happly : s.write facts resolved = s.apply (Plan.batch facts resolved) := rfl
  rw [happly, fileName?_apply h, hops, Upsert.lastName?, hlast, Option.none_or, Upsert.nameFor?]
  split <;> rfl

/-- **Writing a file keeps to that file**, on top of any graph that calls can lead to. It succeeds;
every node and link that was there is still there; a new link starts at the file or at a function
or class in it; a new node is the file, a file that it imports, a function or class in it or a class
from which one of its own inherits, known by its name alone; and the file has its name afterwards,
while every other one, also if the file imports it, has the name that it had. -/
theorem write_keeps_to_its_file (calls : List Call) (facts : FileFacts) (resolved : List String) :
    let s := empty.performAll calls
    let written := (Backend.memory.write facts resolved s).value
    let s' := written.2
    let path := facts.path
    written.1 = .ok (Plan.batch facts resolved).size ∧
      (∀ k, s.containsNode k → s'.containsNode k) ∧ (∀ l, s.hasLink l → s'.hasLink l) ∧
      (∀ l, s'.hasLink l → ¬ s.hasLink l →
        l.source = .file path ∨ (∃ name, l.source = .function name path) ∨
          ∃ name, l.source = .class name path) ∧
      (∀ k, s'.containsNode k → ¬ s.containsNode k →
        k = .file path ∨ (∃ target ∈ resolved, k = .file target) ∨
          (∃ name, k = .function name path) ∨ (∃ name, k = .class name path) ∨
          ∃ c ∈ facts.classes, ∃ base ∈ c.bases, k = .class base "") ∧
      s'.fileName? path = some facts.name ∧
      ∀ other, other ≠ path → s'.fileName? other = s.fileName? other := by
  intro s written s' path
  have hs : s.Consistent := consistent_performAll consistent_empty calls
  have hnode : ∀ k, s'.containsNode k ↔ _ := containsNode_write facts resolved s
  have hlink : ∀ l, s'.hasLink l ↔ _ := hasLink_write facts resolved hs
  have hname : ∀ q, s'.fileName? q = _ := fileName?_write facts resolved hs
  refine ⟨rfl, fun k hk => (hnode k).2 (.inr hk), fun l hl => (hlink l).2 (.inr hl),
    fun l hl hnew => ?_, fun k hk hnew => ?_, ?_, fun other hother => ?_⟩
  · -- a link that is new was planned, and a planned link begins at something of the file
    have hmem := ((hlink l).1 hl).resolve_right hnew
    exact NodeKey.path_eq_iff.1 (Plan.path_of_mem_linksOf hmem)
  · have hmem := ((hnode k).1 hk).resolve_right hnew
    rcases Plan.of_mem_nodesOf hmem with hown | htarget | hbase
    · rcases NodeKey.path_eq_iff.1 hown with hfile | hfunction | hclass
      · exact .inl hfile
      · exact .inr (.inr (.inl hfunction))
      · exact .inr (.inr (.inr (.inl hclass)))
    · exact .inr (.inl htarget)
    · exact .inr (.inr (.inr (.inr hbase)))
  · rw [hname, if_pos rfl]
  · rw [hname, if_neg (Ne.symm hother)]

end Store

end CodeGraph
