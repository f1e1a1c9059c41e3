import CodeGraph.Graph.Snapshot
import Mathlib.Data.List.Nodup
import Mathlib.Data.List.Perm.Basic

/-! # Sorting by lists of texts

`Store.sortedBy` compares lists of texts. The order on such lists is total and antisymmetric, so
that a sorted list is determined by its members as soon as different members have different keys
(`sortedBy_eq_iff`). The keys of nodes, links and snapshot nodes are of this kind: each key begins
with the rank of its kind, and the rest holds all parts. -/

namespace CodeGraph

namespace Store

/-! ## The order on lists of texts -/

/-- `notAfter a b` says that `b` does not come before `a`. -/
theorem notAfter_iff (a b : List String) : notAfter a b ↔ ¬ List.Lex (· < ·) b a := by
  rw [notAfter, Bool.not_eq_true', List.lex_eq_false_iff_ge]
  exact Iff.rfl

/-- `notAfter` is transitive: the lexicographic order of lists of strings is. -/
theorem notAfter_trans {a b c : List String} (hab : notAfter a b) (hbc : notAfter b c) :
    notAfter a c := by
  rw [notAfter_iff] at hab hbc ⊢
  exact List.le_trans hab hbc

/-- Any two sort keys are related by `notAfter` one way or the other. -/
theorem notAfter_total (a b : List String) : notAfter a b || notAfter b a := by
  rw [Bool.or_eq_true, notAfter_iff, notAfter_iff]
  exact List.le_total a b

/-- Two sort keys that stand in `notAfter` both ways are equal. -/
theorem notAfter_antisymm {a b : List String} (hab : notAfter a b) (hba : notAfter b a) :
    a = b := by
  rw [notAfter_iff] at hab hba
  exact List.le_antisymm hab hba

/-! ## Sorted lists -/

variable {α : Type} {key : α → List String}

/-- `sortedBy` rearranges: it loses no element and invents none. -/
theorem sortedBy_perm (key : α → List String) (xs : List α) : (sortedBy key xs).Perm xs :=
  List.mergeSort_perm xs _

/-- `sortedBy` has the same members as the list it sorts. -/
@[simp] theorem mem_sortedBy {a : α} {xs : List α} : a ∈ sortedBy key xs ↔ a ∈ xs :=
  (sortedBy_perm key xs).mem_iff

/-- In a sorted list no member comes before an earlier one. -/
theorem pairwise_sortedBy (key : α → List String) (xs : List α) :
    (sortedBy key xs).Pairwise fun a b => notAfter (key a) (key b) := by
  apply List.pairwise_mergeSort
  · intro a b c hab hbc
    exact notAfter_trans hab hbc
  · intro a b
    exact notAfter_total (key a) (key b)

/-- **A sorted list is determined by what it holds**: two sorted lists that are permutations of each
other are equal, if different members have different keys. -/
theorem eq_of_perm_of_sorted (hkey : Function.Injective key) {xs ys : List α}
    (hx : xs.Pairwise fun a b => notAfter (key a) (key b))
    (hy : ys.Pairwise fun a b => notAfter (key a) (key b)) (h : xs.Perm ys) : xs = ys :=
  h.eq_of_pairwise (fun _ _ _ _ hab hba => hkey (notAfter_antisymm hab hba)) hx hy

/-- Sorting forgets the order that was there before. -/
theorem sortedBy_eq_of_perm (hkey : Function.Injective key) {xs ys : List α} (h : xs.Perm ys) :
    sortedBy key xs = sortedBy key ys :=
  eq_of_perm_of_sorted hkey (pairwise_sortedBy key xs) (pairwise_sortedBy key ys)
    ((sortedBy_perm key xs).trans (h.trans (sortedBy_perm key ys).symm))

/-- Lists without repetitions have equal sorted forms exactly if they have the same members. -/
theorem sortedBy_eq_iff (hkey : Function.Injective key) {xs ys : List α} (hx : xs.Nodup)
    (hy : ys.Nodup) : sortedBy key xs = sortedBy key ys ↔ ∀ a, a ∈ xs ↔ a ∈ ys := by
  constructor
  · intro h a
    rw [← (sortedBy_perm key xs).mem_iff, h, mem_sortedBy]
  · intro h
    exact sortedBy_eq_of_perm hkey ((List.perm_ext_iff_of_nodup hx hy).2 h)

/-- It does not matter whether members are taken out before or after sorting. -/
theorem filter_sortedBy (hkey : Function.Injective key) (p : α → Bool) (xs : List α) :
    (sortedBy key xs).filter p = sortedBy key (xs.filter p) := by
  refine eq_of_perm_of_sorted hkey ((pairwise_sortedBy key xs).filter p)
    (pairwise_sortedBy key _) ?_
  exact ((sortedBy_perm key xs).filter p).trans (sortedBy_perm key _).symm

end Store

/-! ## Keys of different things are different -/

/-- The `rank` texts of the labels are pairwise different. -/
theorem NodeLabel.rank_injective : Function.Injective NodeLabel.rank := by
  intro a b h
  cases a <;> cases b <;> first | rfl | exact absurd h (by decide)

/-- The `rank` texts of the relations are pairwise different. -/
theorem Relation.rank_injective : Function.Injective Relation.rank := by
  intro a b h
  cases a <;> cases b <;> first | rfl | exact absurd h (by decide)

/-- The key of a node names its kind and all its parts. -/
theorem NodeKey.sortKey_injective : Function.Injective NodeKey.sortKey := by
  intro a b h
  cases a <;> cases b <;> simp_all [NodeKey.sortKey, NodeLabel.rank]

/-- A node's `sortKey` begins with the `rank` of its label. -/
@[simp] theorem NodeKey.head?_sortKey (k : NodeKey) : k.sortKey.head? = some k.label.rank := by
  cases k <;> rfl

/-- How long the key of a node is depends on its kind alone. -/
theorem NodeKey.length_sortKey {a b : NodeKey} (h : a.label = b.label) :
    a.sortKey.length = b.sortKey.length := by
  cases a <;> cases b <;> first | rfl | cases h

/-- The key of a link can be taken apart: it begins with the kind of the source, and so it is known
where the source ends. -/
theorem Link.sortKey_injective : Function.Injective Link.sortKey := by
  rintro ⟨source, relation, target⟩ ⟨source', relation', target'⟩ h
  have hlabel : source.label = source'.label := by
    have hh := congrArg List.head? h
    simp only [Link.sortKey, List.head?_append, NodeKey.head?_sortKey, Option.some_or,
      Option.some.injEq] at hh
    exact NodeLabel.rank_injective hh
  obtain ⟨hsource, hrest⟩ := List.append_inj h (NodeKey.length_sortKey hlabel)
  obtain ⟨hrelation, htarget⟩ := List.cons.inj hrest
  cases NodeKey.sortKey_injective hsource
  cases Relation.rank_injective hrelation
  cases NodeKey.sortKey_injective htarget
  rfl

/-- Pairs written one after the other can be taken apart. -/
theorem SnapshotNode.flatMap_pairs_injective :
    Function.Injective fun ps : List (String × String) => ps.flatMap fun p => [p.1, p.2] := by
  intro ps
  induction ps with
  | nil => rintro (_ | ⟨q, qs⟩) h <;> simp_all
  | cons p ps ih =>
    rintro (_ | ⟨q, qs⟩) h
    · simp at h
    · simp only [List.flatMap_cons, List.cons_append, List.nil_append, List.cons.injEq] at h
      rw [Prod.ext h.1 h.2.1, ih h.2.2]

/-- `SnapshotNode.sortKey` tells any two exported nodes apart, the name field included. -/
theorem SnapshotNode.sortKey_injective : Function.Injective SnapshotNode.sortKey := by
  rintro ⟨label, properties⟩ ⟨label', properties'⟩ h
  obtain ⟨hlabel, hproperties⟩ := List.cons.inj h
  cases NodeLabel.rank_injective hlabel
  cases SnapshotNode.flatMap_pairs_injective hproperties
  rfl

end CodeGraph
