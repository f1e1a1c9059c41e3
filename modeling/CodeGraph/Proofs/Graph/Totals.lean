import CodeGraph.Proofs.Graph.Written
import Mathlib.Data.Finset.Card
import Mathlib.Data.Finset.Lattice.Lemmas

/-! # Totals of what was written

The totals of a graph count nodes and links, of which none is there twice. So a total is the number
of different nodes or links that the files give (`labelCount_writeAll`, `relationCount_writeAll`).
Links of files with different paths are different, since a link begins at something that belongs to
its file (`Plan.path_of_mem_linksOf`), and so are their functions and the classes that they define;
totals of these are sums over the files. What files share is counted once: the files that they
import, and the classes of which only the name is known. -/

namespace CodeGraph

/-! ## Numbers of different members -/

section Distinct

variable {α β : Type} [DecidableEq α] [DecidableEq β]

/-- An injective map keeps the number of different members. -/
theorem card_toFinset_map {f : α → β} (hf : Function.Injective f) (xs : List α) :
    (xs.map f).toFinset.card = xs.toFinset.card := by
  have himage : (xs.map f).toFinset = xs.toFinset.image f := by
    ext b
    simp
  rw [himage, Finset.card_image_of_injective _ hf]

/-- The numbers of different members of two lists with nothing in common add up. -/
theorem card_toFinset_append {xs ys : List α} (h : xs.Disjoint ys) :
    (xs ++ ys).toFinset.card = xs.toFinset.card + ys.toFinset.card := by
  rw [List.toFinset_append, Finset.card_union_of_disjoint (List.disjoint_toFinset_iff_disjoint.2 h)]

/-- Where lists have nothing in common, the numbers of their different members add up. -/
theorem card_toFinset_flatMap {γ : Type} {g : γ → List β} {xs : List γ}
    (h : xs.Pairwise fun a b => (g a).Disjoint (g b)) :
    (xs.flatMap g).toFinset.card = (xs.map fun a => (g a).toFinset.card).sum := by
  induction xs with
  | nil => rfl
  | cons a xs ih =>
    rw [List.pairwise_cons] at h
    have hdisjoint : (g a).Disjoint (xs.flatMap g) := by
      intro b hb hmem
      obtain ⟨a', ha', hb'⟩ := List.mem_flatMap.1 hmem
      exact h.1 a' ha' hb hb'
    rw [List.flatMap_cons, card_toFinset_append hdisjoint, ih h.2, List.map_cons, List.sum_cons]

end Distinct

/-! ## Totals count different things -/

namespace Store

variable {s : Store} (h : s.Consistent)
include h

/-- The total of a kind of nodes is the number of different ones that are there. -/
theorem labelCount_eq_card {label : NodeLabel} {keys : List NodeKey}
    (hkeys : ∀ k, k ∈ keys ↔ k.label = label ∧ s.containsNode k) :
    s.labelCount label = keys.toFinset.card := by
  have hnodup : ((s.nodes.toList.map Node.key).filter (·.label == label)).Nodup :=
    (keys_nodup h).filter _
  have hlength : s.labelCount label
      = ((s.nodes.toList.map Node.key).filter (·.label == label)).length := by
    rw [labelCount_eq, List.filter_map, List.length_map]
    rfl
  rw [hlength, ← List.toFinset_card_of_nodup hnodup]
  congr 1
  ext k
  simp only [List.mem_toFinset, List.mem_filter, List.mem_map, Array.mem_toList_iff, beq_iff_eq,
    hkeys, containsNode_iff h, and_comm]

/-- The total of a kind of links is the number of different ones that are there. -/
theorem relationCount_eq_card {relation : Relation} {links : List Link}
    (hlinks : ∀ l, l ∈ links ↔ l.relation = relation ∧ s.hasLink l) :
    s.relationCount relation = links.toFinset.card := by
  rw [← length_linksOf, ← List.toFinset_card_of_nodup (linksOf_nodup h relation)]
  congr 1
  ext l
  simp only [List.mem_toFinset, mem_linksOf h, hlinks]

end Store

/-! ## What belongs to a file -/

/-- The path of the file to which a node belongs. -/
def NodeKey.path : NodeKey → String
  | .file path => path
  | .function _ path => path
  | .class _ path => path

namespace Plan

variable {facts : FileFacts} {resolved : List String}

/-- A link begins at something that belongs to the file. -/
theorem path_of_mem_linksOf {relation : Relation} {l : Link}
    (h : l ∈ linksOf facts resolved relation) : l.source.path = facts.path := by
  cases relation with
  | definedIn =>
    rcases List.mem_append.1 h with h | h <;> obtain ⟨_, -, rfl⟩ := List.mem_map.1 h <;> rfl
  | _ =>
    obtain ⟨_, -, rfl⟩ := List.mem_map.1 h
    rfl

/-- The functions planned for a file, whether defined or only mentioned, belong to its path. -/
theorem path_of_mem_functions {k : NodeKey} (h : k ∈ nodesOf facts resolved .function) :
    k.path = facts.path := by
  obtain ⟨_, -, rfl⟩ := List.mem_map.1 h
  rfl

/-! ### Different links of a file -/

/-- A file gives as many `definedIn` links as it defines functions and classes of different
names. -/
theorem card_definedIn :
    (linksOf facts resolved .definedIn).toFinset.card
      = (facts.functions.map (·.name)).toFinset.card
        + (facts.classes.map (·.name)).toFinset.card := by
  let ofFunction (name : String) : Link :=
    ⟨.function name facts.path, .definedIn, .file facts.path⟩
  let ofClass (name : String) : Link := ⟨.class name facts.path, .definedIn, .file facts.path⟩
  have hlinks : linksOf facts resolved .definedIn
      = (facts.functions.map (·.name)).map ofFunction
        ++ (facts.classes.map (·.name)).map ofClass := by
    rw [List.map_map, List.map_map]
    rfl
  -- a function and a class of one name are different nodes
  have hdisjoint : ((facts.functions.map (·.name)).map ofFunction).Disjoint
      ((facts.classes.map (·.name)).map ofClass) := by
    intro l hfunction hclass
    obtain ⟨_, -, rfl⟩ := List.mem_map.1 hfunction
    obtain ⟨_, -, heq⟩ := List.mem_map.1 hclass
    cases heq
  have hfunction : Function.Injective ofFunction := by
    intro a b heq
    cases heq
    rfl
  have hclass : Function.Injective ofClass := by
    intro a b heq
    cases heq
    rfl
  rw [hlinks, card_toFinset_append hdisjoint, card_toFinset_map hfunction,
    card_toFinset_map hclass]

/-- A file gives as many `imports` links as there are different files among those it resolves to. -/
theorem card_imports :
    (linksOf facts resolved .imports).toFinset.card = resolved.toFinset.card := by
  refine card_toFinset_map ?_ resolved
  intro a b heq
  cases heq
  rfl

/-- A file gives as many `calls` links as it has different pairs of caller and callee. -/
theorem card_calls :
    (linksOf facts resolved .calls).toFinset.card = facts.callerPairs.toFinset.card := by
  refine card_toFinset_map ?_ facts.callerPairs
  rintro ⟨a, b⟩ ⟨a', b'⟩ heq
  cases heq
  rfl

/-- A file gives as many `usedIn` links as there are different names among those it calls. -/
theorem card_usedIn :
    (linksOf facts resolved .usedIn).toFinset.card
      = (facts.calls.map (·.callee)).toFinset.card := by
  let ofCallee (name : String) : Link := ⟨.function name facts.path, .usedIn, .file facts.path⟩
  have hlinks : linksOf facts resolved .usedIn = (facts.calls.map (·.callee)).map ofCallee := by
    rw [List.map_map]
    rfl
  rw [hlinks, card_toFinset_map]
  intro a b heq
  cases heq
  rfl

/-- A file gives as many `inherits` links as it has different pairs of class and base. -/
theorem card_inherits :
    (linksOf facts resolved .inherits).toFinset.card = facts.basePairs.toFinset.card := by
  refine card_toFinset_map ?_ facts.basePairs
  rintro ⟨a, b⟩ ⟨a', b'⟩ heq
  cases heq
  rfl

/-! ### Different nodes of a file -/

/-- A file gives as many functions as it mentions different names of functions. -/
theorem card_functions :
    (nodesOf facts resolved .function).toFinset.card = facts.functionMentions.toFinset.card := by
  refine card_toFinset_map ?_ facts.functionMentions
  intro a b heq
  cases heq
  rfl

/-- Lists of what belongs to files with different paths have nothing in common. -/
theorem pairwise_disjoint {α : Type} {files : List (FileFacts × List String)}
    (hpaths : (files.map fun f => f.1.path).Nodup) {path : α → String}
    {parts : FileFacts × List String → List α}
    (h : ∀ f, ∀ a ∈ parts f, path a = f.1.path) :
    files.Pairwise fun f g => (parts f).Disjoint (parts g) := by
  refine (List.pairwise_map.1 hpaths).imp ?_
  intro f g hne a hf hg
  exact hne ((h f a hf).symm.trans (h g a hg))

end Plan

namespace Store

variable {files : List (FileFacts × List String)}

/-- **A total of nodes** counts the different nodes planned for the files. -/
theorem labelCount_writeAll (label : NodeLabel) :
    (empty.writeAll files).labelCount label
      = (files.flatMap fun f => Plan.nodesOf f.1 f.2 label).toFinset.card := by
  refine labelCount_eq_card consistent_writeAll fun k => ?_
  rw [List.mem_flatMap, containsNode_writeAll]
  constructor
  · rintro ⟨f, hf, hk⟩
    obtain rfl := (Plan.mem_nodesOf.1 hk).1
    exact ⟨rfl, f, hf, hk⟩
  · rintro ⟨rfl, f, hf, hk⟩
    exact ⟨f, hf, hk⟩

/-- **A total of links** counts the different links planned for the files. -/
theorem relationCount_writeAll (relation : Relation) :
    (empty.writeAll files).relationCount relation
      = (files.flatMap fun f => Plan.linksOf f.1 f.2 relation).toFinset.card := by
  refine relationCount_eq_card consistent_writeAll fun l => ?_
  rw [List.mem_flatMap, hasLink_writeAll]
  constructor
  · rintro ⟨f, hf, hl⟩
    obtain rfl := (Plan.mem_linksOf.1 hl).1
    exact ⟨rfl, f, hf, hl⟩
  · rintro ⟨rfl, f, hf, hl⟩
    exact ⟨f, hf, hl⟩

variable (hpaths : (files.map fun f => f.1.path).Nodup)
include hpaths

/-- **Totals of links are sums** over files with different paths. -/
theorem relationCount_writeAll_eq_sum (relation : Relation) :
    (empty.writeAll files).relationCount relation
      = (files.map fun f => (Plan.linksOf f.1 f.2 relation).toFinset.card).sum := by
  rw [relationCount_writeAll]
  exact card_toFinset_flatMap (Plan.pairwise_disjoint hpaths fun f l => Plan.path_of_mem_linksOf)

/-- **The total of functions** is the sum over the files of the different names each mentions. -/
theorem functions_writeAll :
    (empty.writeAll files).labelCount .function
      = (files.map fun f => f.1.functionMentions.toFinset.card).sum := by
  rw [labelCount_writeAll, card_toFinset_flatMap
    (Plan.pairwise_disjoint hpaths fun f k => Plan.path_of_mem_functions)]
  simp only [Plan.card_functions]

/-- Classes that files define are counted for each file; those of which only the name is known are
counted once for all files. -/
theorem classes_writeAll (hne : ∀ f ∈ files, f.1.path ≠ "") :
    (empty.writeAll files).labelCount .classType
      = (files.map fun f => (f.1.classes.map (·.name)).toFinset.card).sum
        + (files.flatMap fun f => f.1.classes.flatMap (·.bases)).toFinset.card := by
  let defined (f : FileFacts × List String) : List NodeKey :=
    (f.1.classes.map (·.name)).map fun name => .class name f.1.path
  let inherited : List NodeKey :=
    (files.flatMap fun f => f.1.classes.flatMap (·.bases)).map fun name => .class name ""
  have hpath : ∀ f, ∀ k ∈ defined f, k.path = f.1.path := by
    intro f k hk
    obtain ⟨name, -, rfl⟩ := List.mem_map.1 hk
    rfl
  -- no file has the empty path under which the inherited classes stand
  have hdisjoint : (files.flatMap defined).Disjoint inherited := by
    intro k hdefined hinherited
    obtain ⟨f, hf, hk⟩ := List.mem_flatMap.1 hdefined
    obtain ⟨name, -, rfl⟩ := List.mem_map.1 hinherited
    exact hne f hf (hpath f _ hk).symm
  have hparts : ∀ f : FileFacts × List String, Plan.nodesOf f.1 f.2 .classType
      = defined f ++ (f.1.classes.flatMap (·.bases)).map fun name => .class name "" := by
    intro f
    simp [Plan.nodesOf, FileFacts.basePairs, defined, List.map_flatMap, Function.comp_def,
      Upsert.unknownFile]
  have hnodes : (files.flatMap fun f => Plan.nodesOf f.1 f.2 .classType).toFinset
      = (files.flatMap defined ++ inherited).toFinset := by
    ext k
    simp only [hparts, inherited, List.map_flatMap, List.mem_toFinset, List.mem_append,
      List.mem_flatMap, and_or_left, exists_or]
  have hdefined : ∀ f, (defined f).toFinset.card
      = (f.1.classes.map (·.name)).toFinset.card := by
    intro f
    refine card_toFinset_map ?_ _
    intro a b heq
    cases heq
    rfl
  have hinherited : inherited.toFinset.card
      = (files.flatMap fun f => f.1.classes.flatMap (·.bases)).toFinset.card := by
    refine card_toFinset_map ?_ _
    intro a b heq
    cases heq
    rfl
  rw [labelCount_writeAll, hnodes, card_toFinset_append hdisjoint, hinherited,
    card_toFinset_flatMap (Plan.pairwise_disjoint hpaths hpath)]
  simp only [hdefined]

omit hpaths in
/-- Files are counted once, whether they were written or only imported. -/
theorem files_writeAll :
    (empty.writeAll files).labelCount .file
      = (files.map (·.1.path) ++ files.flatMap (·.2)).toFinset.card := by
  have hnodes : (files.flatMap fun f => Plan.nodesOf f.1 f.2 .file).toFinset
      = ((files.map (·.1.path) ++ files.flatMap (·.2)).map NodeKey.file).toFinset := by
    ext k
    simp only [Plan.nodesOf, List.map_append, List.map_map, List.map_flatMap, List.mem_toFinset,
      List.mem_append, List.mem_flatMap, List.mem_cons, and_or_left, exists_or]
    simp only [List.mem_map, Function.comp_apply, eq_comm]
  rw [labelCount_writeAll, hnodes, card_toFinset_map]
  exact fun a b => NodeKey.file.inj

end Store

end CodeGraph
