import CodeGraph.Graph.Export
import CodeGraph.Proofs.Graph.Sorting
import CodeGraph.Proofs.Json.RoundTrip
import Mathlib.Data.String.Basic

/-! # Graphs are read back from JSON

What is written of a graph gives it back: keys, upserts and links as they are, a batch without what
it remembers, a snapshot whose nodes have sorted properties, as those of a graph do. -/

namespace CodeGraph

open Json (Readable)

/-! ## Keys, upserts and links -/

namespace NodeKey

/-- A `NodeKey` is read back from its JSON. -/
@[simp] theorem ofJson?_toJson (k : NodeKey) : ofJson? k.toJson = some k := by
  cases k <;> rfl

/-- The JSON of a `NodeKey` opens one object and holds texts only. -/
theorem readable_toJson (d : Nat) (k : NodeKey) : Readable (d + 1) k.toJson := by
  cases k <;> exact .object (by simp [Readable.string])

end NodeKey

namespace Upsert

/-- An `Upsert` is read back from its JSON, whichever constructor it has. -/
@[simp] theorem ofJson?_toJson (op : Upsert) : ofJson? op.toJson = some op := by
  cases op with
  | definition kind name path => cases kind <;> rfl
  | _ => rfl

/-- The JSON of an `Upsert` opens one object and holds texts only. -/
theorem readable_toJson (d : Nat) (op : Upsert) : Readable (d + 1) op.toJson := by
  cases op <;> exact .object (by simp [Readable.string])

end Upsert

namespace Link

/-- A `Link` is read back from its JSON, both of its ends with it. -/
theorem ofJson?_toJson (l : Link) : ofJson? l.toJson = some l := by
  obtain ⟨source, relation, target⟩ := l
  have hrelation : Relation.ofJson? (.string relation.name) = some relation := by
    cases relation <;> rfl
  have hread : ofJson? (toJson ⟨source, relation, target⟩)
      = (NodeKey.ofJson? source.toJson).bind fun s =>
          (Relation.ofJson? (.string relation.name)).bind fun r =>
            (NodeKey.ofJson? target.toJson).bind fun t => some ⟨s, r, t⟩ := rfl
  rw [hread, hrelation, NodeKey.ofJson?_toJson, NodeKey.ofJson?_toJson]
  rfl

/-- The JSON of a `Link` is an object around the objects of its two ends. -/
theorem readable_toJson (d : Nat) (l : Link) : Readable (d + 2) l.toJson :=
  .object (by simp [Readable.string, NodeKey.readable_toJson])

end Link

/-! ## Batches -/

namespace Batch

/-- A batch is read back with its upserts in order, and remembers none of them. -/
theorem ofJson?_toJson (b : Batch) : ofJson? b.toJson = some { file := b.file, ops := b.ops } := by
  have hread : ofJson? b.toJson
      = ((b.ops.toList.map Upsert.toJson).mapM Upsert.ofJson?).bind fun ops =>
          some { file := b.file, ops := ops.toArray } := rfl
  rw [hread, Json.mapM_map fun op _ => Upsert.ofJson?_toJson op]
  rfl

/-- The JSON of a `Batch` is an object around an array of upserts, so three levels suffice. -/
theorem readable_toJson (d : Nat) (b : Batch) : Readable (d + 3) b.toJson :=
  .object (by
    simpa [Readable.string] using Json.readable_map fun op _ => Upsert.readable_toJson d op)

end Batch

/-! ## Snapshots -/

namespace SnapshotNode

/-- Whether the properties of a node are sorted by their names, none of which is there twice. -/
def Sorted (n : SnapshotNode) : Prop := n.properties.Pairwise fun p q => p.1 < q.1

/-- A property whose name comes after all others is put at the end. -/
theorem setProperty_eq_append {p : String × String} {ps : List (String × String)}
    (h : ∀ q ∈ ps, q.1 < p.1) : setProperty p ps = ps ++ [p] := by
  induction ps with
  | nil => rfl
  | cons q qs ih =>
    have hq : q.1 < p.1 := h q (List.mem_cons_self ..)
    rw [setProperty, if_neg (not_lt_of_gt hq), if_neg (by simpa using ne_of_gt hq),
      ih fun q' hq' => h q' (List.mem_cons_of_mem q hq'), List.cons_append]

/-- Properties that are sorted are kept as they are. -/
theorem foldl_setProperty {sorted ps : List (String × String)}
    (h : (sorted ++ ps).Pairwise fun p q => p.1 < q.1) :
    ps.foldl (fun sorted p => setProperty p sorted) sorted = sorted ++ ps := by
  induction ps generalizing sorted with
  | nil => simp
  | cons p ps ih =>
    have hlast : ∀ q ∈ sorted, q.1 < p.1 := fun q hq =>
      (List.pairwise_append.1 h).2.2 q hq p (List.mem_cons_self ..)
    rw [List.foldl_cons, setProperty_eq_append hlast, ih (by simpa using h), List.append_assoc,
      List.singleton_append]

/-- A `SnapshotNode` whose properties are `Sorted` is read back from its JSON. -/
theorem ofJson?_toJson {n : SnapshotNode} (h : n.Sorted) : ofJson? n.toJson = some n := by
  obtain ⟨label, properties⟩ := n
  have hlabel : NodeLabel.ofJson? (.string label.name) = some label := by
    cases label <;> rfl
  have hproperties : (properties.map fun p => (p.1, Json.string p.2)).mapM
      (fun f : String × Json => f.2.asString?.map fun s => (f.1, s)) = some properties :=
    Json.mapM_map fun _ _ => rfl
  have hread : ofJson? (toJson ⟨label, properties⟩)
      = ((properties.map fun p => (p.1, Json.string p.2)).mapM
          fun f : String × Json => f.2.asString?.map fun s => (f.1, s)).bind fun ps =>
        (NodeLabel.ofJson? (.string label.name)).bind fun l =>
          some ⟨l, ps.foldl (fun sorted p => setProperty p sorted) []⟩ := rfl
  have hsorted : properties.foldl (fun sorted p => setProperty p sorted) [] = properties :=
    foldl_setProperty h
  rw [hread, hproperties, hlabel, Option.bind_some, Option.bind_some, hsorted]

/-- The nodes that are exported have `Sorted` properties. -/
theorem sorted_ofNode (n : Node) : (ofNode n).Sorted := by
  have hname : "name" < "path" := by decide
  have hfile : "file" < "name" := by decide
  obtain ⟨key, name⟩ := n
  cases key with
  | file path =>
    cases name with
    | none => exact List.pairwise_singleton ..
    | some name => exact List.pairwise_pair.2 hname
  | function name path => exact List.pairwise_pair.2 hfile
  | «class» name path => exact List.pairwise_pair.2 hfile

/-- The JSON of a `SnapshotNode` is an object with an object of texts inside it. -/
theorem readable_toJson (d : Nat) (n : SnapshotNode) : Readable (d + 2) n.toJson := by
  have hproperties : Readable (d + 1) (.object (n.properties.map fun p => (p.1, .string p.2))) := by
    refine .object fun f hf => ?_
    obtain ⟨p, -, rfl⟩ := List.mem_map.1 hf
    exact .string d p.2
  exact .object (by simp [Readable.string, hproperties])

end SnapshotNode

namespace Snapshot

/-- A `Snapshot` of nodes with `Sorted` properties is read back from its JSON. -/
theorem ofJson?_toJson {s : Snapshot} (h : ∀ n ∈ s.nodes, n.Sorted) :
    ofJson? s.toJson = some s := by
  have hread : ofJson? s.toJson
      = ((s.nodes.map SnapshotNode.toJson).mapM SnapshotNode.ofJson?).bind fun nodes =>
          ((s.links.map Link.toJson).mapM Link.ofJson?).bind fun links =>
            some ⟨nodes, links⟩ := rfl
  rw [hread, Json.mapM_map fun n hn => SnapshotNode.ofJson?_toJson (h n hn),
    Json.mapM_map fun l _ => l.ofJson?_toJson]
  rfl

/-- The JSON of a `Snapshot` opens four levels: itself, its lists, a link and the link's ends. -/
theorem readable_toJson (d : Nat) (s : Snapshot) : Readable (d + 4) s.toJson := by
  have hnodes : Readable (d + 3) (.array (s.nodes.map SnapshotNode.toJson)) :=
    Json.readable_map fun n _ => n.readable_toJson d
  have hlinks : Readable (d + 3) (.array (s.links.map Link.toJson)) :=
    Json.readable_map fun l _ => l.readable_toJson d
  exact .object (by simp [hnodes, hlinks])

end Snapshot

namespace Store

/-- Every node of `Store.snapshot` has `Sorted` properties, so snapshots of stores are read back. -/
theorem sorted_snapshot (s : Store) : ∀ n ∈ s.snapshot.nodes, n.Sorted := by
  intro n hn
  obtain ⟨m, -, rfl⟩ := List.mem_map.1 (mem_sortedBy.1 hn)
  exact SnapshotNode.sorted_ofNode m

/-- **An exported graph is read back** as its snapshot. -/
theorem decode_exportText (s : Store) :
    (Json.parse? s.exportText).bind Snapshot.ofJson? = some s.snapshot := by
  have hreadable : Readable Json.Reading.maxDepth s.snapshot.toJson :=
    s.snapshot.readable_toJson 123
  rw [exportText, hreadable.parse?_pretty, Option.bind_some,
    Snapshot.ofJson?_toJson s.sorted_snapshot]

end Store

end CodeGraph
