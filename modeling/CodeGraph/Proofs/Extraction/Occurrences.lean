import CodeGraph.Extraction.Walk
import Mathlib.Data.List.Lex

/-! # What a walk extracts, without the walk

The walk of `Extraction.visit` hands one scope from node to node. Here the same facts are given
without a scope. `Occurrence.listed` lists the nodes that are reached through named children, each
with the nodes around it: these are all such nodes (`mem_listed`), parents before children and
children in order (`pairwise_listed`). What is extracted at a node then follows from the node and
from what is around it.

The two agree because the scope in which a node is visited holds one frame for each function around
the node (`scopeInside`), and because the visit of a node leaves the scope as it was
(`visit_eq_listed`). -/

namespace CodeGraph.Extraction

/-! ## Nodes with the nodes around them -/

/-- A node of a tree, with the place at which it stands. -/
structure Site where
  node : Tree
  place : Option Place

/-- What the node at a site is. -/
def Site.construct (s : Site) (language : Language) (source : String) : Construct :=
  classify language source s.place s.node

/-- A node with the sites of the nodes around it, innermost first. -/
structure Occurrence extends Site where
  around : List Site

namespace Occurrence

/-- The root of a tree, with nothing around it. -/
def ofRoot (t : Tree) : Occurrence := ⟨⟨t, none⟩, []⟩

/-- A child with its number. -/
def child (o : Occurrence) (index : Nat) (t : Tree) : Occurrence :=
  ⟨⟨t, some ⟨o.node, index⟩⟩, o.toSite :: o.around⟩

/-- The numbers of the children on the way to a node. -/
def address (o : Occurrence) : List Nat :=
  ((o.toSite :: o.around).filterMap fun s => s.place.map Place.index).reverse

/-- The way to a child is the way to its parent and the child's number. -/
@[simp] theorem address_child (o : Occurrence) (index : Nat) (t : Tree) :
    (o.child index t).address = o.address ++ [index] := by
  simp [address, child]

/-- **The nodes reached from a node** through named children. -/
inductive Reaches (o : Occurrence) : Occurrence → Prop
  | self : Reaches o o
  | child {x : Occurrence} {index : Nat} {t : Tree} : Reaches o x →
      x.node.children[index]? = some t → t.named → Reaches o (x.child index t)

end Occurrence

mutual
/-- The nodes of a tree that stands at a place, the tree itself first. -/
def occurrences (place : Option Place) (around : List Site) : Tree → List Occurrence
  | ⟨kind, named, field, isError, isMissing, hasError, start, stop, children⟩ =>
    let t : Tree := ⟨kind, named, field, isError, isMissing, hasError, start, stop, children⟩
    let o : Occurrence := ⟨⟨t, place⟩, around⟩
    o :: occurrencesBelow o 0 children

/-- The nodes of the named trees among the children of a node from number `index` on. -/
def occurrencesBelow (o : Occurrence) (index : Nat) : List Tree → List Occurrence
  | [] => []
  | t :: ts =>
    (if t.named then occurrences (some ⟨o.node, index⟩) (o.toSite :: o.around) t else [])
      ++ occurrencesBelow o (index + 1) ts
end

namespace Occurrence

/-- A node and all nodes reached from it, in the order of the text. -/
def listed (o : Occurrence) : List Occurrence := occurrences o.place o.around o.node

/-- `listed` begins with the node itself and goes on with what is below its children. -/
theorem listed_eq (o : Occurrence) : o.listed = o :: occurrencesBelow o 0 o.node.children := by
  obtain ⟨⟨⟨_, _, _, _, _, _, _, _, _⟩, _⟩, _⟩ := o
  rfl

/-- What is below some children is what is listed for the first, if it is named, and then the
rest. -/
theorem occurrencesBelow_cons (o : Occurrence) (index : Nat) (t : Tree) (ts : List Tree) :
    occurrencesBelow o index (t :: ts)
      = (if t.named then (o.child index t).listed else [])
        ++ occurrencesBelow o (index + 1) ts := by
  rw [occurrencesBelow]
  rfl

/-- What holds of a node as soon as it holds of its children holds of all nodes. -/
theorem induction {motive : Occurrence → Prop}
    (h : ∀ o : Occurrence, (∀ index, ∀ t ∈ o.node.children, motive (o.child index t)) → motive o)
    (o : Occurrence) : motive o := by
  obtain ⟨⟨t, place⟩, around⟩ := o
  induction t using Tree.induction generalizing place around with
  | h t ih => exact h _ fun index c hc => ih c hc _ _

/-- A node below some children is listed for one of them that is named. -/
theorem mem_occurrencesBelow {o x : Occurrence} {index : Nat} {ts : List Tree} :
    x ∈ occurrencesBelow o index ts ↔
      ∃ i t, ts[i]? = some t ∧ t.named ∧ x ∈ (o.child (index + i) t).listed := by
  induction ts generalizing index with
  | nil => simp [occurrencesBelow]
  | cons t ts ih =>
    rw [occurrencesBelow_cons, List.mem_append, ih]
    constructor
    · rintro (hx | ⟨i, c, hc, hnamed, hx⟩)
      · split at hx
        · next hnamed => exact ⟨0, t, rfl, hnamed, hx⟩
        · cases hx
      · refine ⟨i + 1, c, hc, hnamed, ?_⟩
        rwa [Nat.add_comm i 1, ← Nat.add_assoc]
    · rintro ⟨_ | i, c, hc, hnamed, hx⟩
      · cases hc
        rw [if_pos hnamed]
        exact .inl hx
      · refine .inr ⟨i, c, hc, hnamed, ?_⟩
        rwa [Nat.add_assoc, Nat.add_comm 1 i]

/-- What is listed for a named child is listed for its parent. -/
theorem mem_listed_child {o x : Occurrence} {index : Nat} {t : Tree}
    (ht : o.node.children[index]? = some t) (hnamed : t.named)
    (hx : x ∈ (o.child index t).listed) : x ∈ o.listed := by
  rw [listed_eq]
  refine List.mem_cons_of_mem o (mem_occurrencesBelow.2 ⟨index, t, ht, hnamed, ?_⟩)
  rwa [Nat.zero_add]

/-- Every node is listed for itself. -/
theorem self_mem_listed (o : Occurrence) : o ∈ o.listed := by
  rw [listed_eq]
  exact List.mem_cons_self ..

/-- The children of a listed node are listed. -/
theorem child_mem_listed {o x : Occurrence} {index : Nat} {t : Tree}
    (ht : x.node.children[index]? = some t) (hnamed : t.named) (hx : x ∈ o.listed) :
    x.child index t ∈ o.listed := by
  induction o using Occurrence.induction with
  | h o ih =>
    rw [listed_eq] at hx
    rcases List.mem_cons.1 hx with rfl | hx
    · exact mem_listed_child ht hnamed (self_mem_listed _)
    · obtain ⟨i, c, hc, hcnamed, hx⟩ := mem_occurrencesBelow.1 hx
      rw [Nat.zero_add] at hx
      exact mem_listed_child hc hcnamed (ih i c (List.mem_of_getElem? hc) hx)

/-- `Reaches` is transitive: ways through named children can be joined. -/
theorem Reaches.trans {o x y : Occurrence} (hx : Reaches o x) (hy : Reaches x y) :
    Reaches o y := by
  induction hy with
  | self => exact hx
  | child _ ht hnamed ih => exact .child ih ht hnamed

/-- **All reached nodes are listed**, and no others. -/
theorem mem_listed {o x : Occurrence} : x ∈ o.listed ↔ Reaches o x := by
  constructor
  · intro hx
    induction o using Occurrence.induction with
    | h o ih =>
      rw [listed_eq] at hx
      rcases List.mem_cons.1 hx with rfl | hx
      · exact .self
      · obtain ⟨i, c, hc, hnamed, hx⟩ := mem_occurrencesBelow.1 hx
        rw [Nat.zero_add] at hx
        have hchild : Reaches o (o.child i c) := .child .self hc hnamed
        exact hchild.trans (ih i c (List.mem_of_getElem? hc) hx)
  · intro hx
    induction hx with
    | self => exact self_mem_listed o
    | child _ ht hnamed ih => exact child_mem_listed ht hnamed ih

/-! ## The order of the nodes -/

/-- The way to a node leads through the nodes around it. -/
theorem address_of_mem_listed {o x : Occurrence} (hx : x ∈ o.listed) :
    ∃ rest, x.address = o.address ++ rest := by
  have hreaches : Reaches o x := mem_listed.1 hx
  induction hreaches with
  | self => exact ⟨[], (List.append_nil _).symm⟩
  | @child x index t hreaches _ _ ih =>
    obtain ⟨rest, hrest⟩ := ih (mem_listed.2 hreaches)
    exact ⟨rest ++ [index], by rw [address_child, hrest, List.append_assoc]⟩

/-- The way to a node below some children goes through a child that is counted from the first on. -/
theorem address_of_mem_occurrencesBelow {o x : Occurrence} {index : Nat} {ts : List Tree}
    (hx : x ∈ occurrencesBelow o index ts) :
    ∃ i rest, index ≤ i ∧ x.address = o.address ++ i :: rest := by
  obtain ⟨i, t, -, -, hx⟩ := mem_occurrencesBelow.1 hx
  obtain ⟨rest, hrest⟩ := address_of_mem_listed hx
  refine ⟨index + i, rest, Nat.le_add_right index i, ?_⟩
  rw [hrest, address_child, List.append_assoc]
  rfl

/-- The order of the text: a node comes before what is below it, and then the first child on which
the ways to two nodes differ decides. -/
def Precedes (x y : Occurrence) : Prop := List.Lex (· < ·) x.address y.address

/-- If each child's nodes are listed in the order of the text, then so are those of all children. -/
theorem pairwise_occurrencesBelow {o : Occurrence} {index : Nat} {ts : List Tree}
    (h : ∀ i, ∀ t ∈ ts, (o.child i t).listed.Pairwise Precedes) :
    (occurrencesBelow o index ts).Pairwise Precedes := by
  induction ts generalizing index with
  | nil => exact .nil
  | cons t ts ih =>
    have hrest : (occurrencesBelow o (index + 1) ts).Pairwise Precedes :=
      ih fun i c hc => h i c (List.mem_cons_of_mem t hc)
    rw [occurrencesBelow_cons]
    split
    · refine List.pairwise_append.2 ⟨h index t (List.mem_cons_self ..), hrest, fun x hx y hy => ?_⟩
      -- both ways lead through `o`, and then to a later child for `y` than for `x`
      obtain ⟨below, hxaddress⟩ := address_of_mem_listed hx
      obtain ⟨i, later, hi, hyaddress⟩ := address_of_mem_occurrencesBelow hy
      rw [Precedes, hxaddress, hyaddress, address_child, List.append_assoc]
      exact List.Lex.append_left _ (.rel (Nat.lt_of_succ_le hi)) o.address
    · exact hrest

/-- **Nodes are listed in the order of the text.** -/
theorem pairwise_listed (o : Occurrence) : o.listed.Pairwise Precedes := by
  induction o using Occurrence.induction with
  | h o ih =>
    rw [listed_eq, List.pairwise_cons]
    refine ⟨fun x hx => ?_, pairwise_occurrencesBelow ih⟩
    obtain ⟨i, rest, -, haddress⟩ := address_of_mem_occurrencesBelow hx
    rw [Precedes, haddress]
    nth_rewrite 1 [← List.append_nil o.address]
    exact List.Lex.append_left _ .nil o.address

end Occurrence

/-! ## Scopes -/

/-- The frame of a construct, if it is a function. -/
def Construct.frame? : Construct → Option Frame
  | .function name => some ⟨name⟩
  | _ => none

section Walk

variable (language : Language) (source path : String) (base : Scope)

/-- The scope inside some sites: one frame for each function among them. -/
def scopeInside (sites : List Site) : Scope :=
  ⟨(sites.filterMap fun s => (s.construct language source).frame?) ++ base.frames⟩

/-- What a walk finds at a node. -/
def factsAt (o : Occurrence) : List Fact :=
  ownFacts path (scopeInside language source base o.around) o.node.line
    (o.construct language source)

/-- `visit` records what a node is and visits its children, inside the function if it is one. -/
theorem visit_eq (place : Option Place) (t : Tree) (scope : Scope) :
    visit language source path place t scope
      = let construct := classify language source place t
        let below := match construct with
          | .function name => scope.within name fun inner =>
              visitAll language source path t 0 t.children inner
          | _ => visitAll language source path t 0 t.children scope
        (ownFacts path scope t.line construct ++ below.1, below.2) := by
  obtain ⟨_, _, _, _, _, _, _, _, _⟩ := t
  rfl

/-- A function that is left again gives back the scope in which it was entered. -/
theorem within_of_restores {α : Type} {scope : Scope} {name : Option String}
    {f : Scope → α × Scope} (h : (f (scope.push name)).2 = scope.push name) :
    scope.within name f = ((f (scope.push name)).1, scope) := by
  show ((f (scope.push name)).1, (f (scope.push name)).2.pop.2) = _
  rw [h]
  rfl

variable {language source base} in
/-- One step of the walk: if the children of a node are walked as listed, in the scope inside the
node, then so is the node. -/
theorem visit_of_children {o : Occurrence}
    (h : visitAll language source path o.node 0 o.node.children
        (scopeInside language source base (o.toSite :: o.around))
      = ((occurrencesBelow o 0 o.node.children).flatMap (factsAt language source path base),
        scopeInside language source base (o.toSite :: o.around))) :
    visit language source path o.place o.node (scopeInside language source base o.around)
      = (o.listed.flatMap (factsAt language source path base),
        scopeInside language source base o.around) := by
  rw [visit_eq, Occurrence.listed_eq, List.flatMap_cons]
  have hown : ownFacts path (scopeInside language source base o.around) o.node.line
      (classify language source o.place o.node) = factsAt language source path base o := rfl
  cases hc : classify language source o.place o.node with
  | function name =>
    -- the children are walked with one more frame, which is taken off afterwards
    have hpush : scopeInside language source base (o.toSite :: o.around)
        = (scopeInside language source base o.around).push name := by
      rw [scopeInside, List.filterMap_cons_some (b := ⟨name⟩)]
      · rfl
      · rw [Site.construct, hc]; rfl
    rw [hpush] at h
    rw [hc] at hown
    simp only [within_of_restores (congrArg Prod.snd h), h, hown]
  | _ =>
    have hsame : scopeInside language source base (o.toSite :: o.around)
        = scopeInside language source base o.around := by
      rw [scopeInside, List.filterMap_cons_none]
      · rfl
      · rw [Site.construct, hc]; rfl
    rw [hsame] at h
    rw [hc] at hown
    simp only [h, hown]

/-- If visiting each child finds the facts of its nodes and restores the scope, so does
`visitAll`. -/
theorem visitAll_of_each {o : Occurrence} {scope : Scope} {index : Nat} {ts : List Tree}
    (h : ∀ i, ∀ t ∈ ts, visit language source path (some ⟨o.node, i⟩) t scope
      = ((o.child i t).listed.flatMap (factsAt language source path base), scope)) :
    visitAll language source path o.node index ts scope
      = ((occurrencesBelow o index ts).flatMap (factsAt language source path base), scope) := by
  induction ts generalizing index with
  | nil => rw [visitAll, occurrencesBelow, List.flatMap_nil]
  | cons t ts ih =>
    have hfirst := h index t (List.mem_cons_self ..)
    have hrest : visitAll language source path o.node (index + 1) ts scope
        = ((occurrencesBelow o (index + 1) ts).flatMap (factsAt language source path base),
          scope) :=
      ih fun i c hc => h i c (List.mem_cons_of_mem t hc)
    rw [visitAll, Occurrence.occurrencesBelow_cons]
    by_cases hnamed : t.named
    · simp only [if_pos hnamed, hfirst, hrest, List.flatMap_append]
    · simp only [if_neg hnamed, hrest, List.nil_append]

/-- **A whole walk** finds what is at the listed nodes, one after the other, and leaves the scope as
it was. -/
theorem visit_eq_listed (o : Occurrence) :
    visit language source path o.place o.node (scopeInside language source base o.around)
      = (o.listed.flatMap (factsAt language source path base),
        scopeInside language source base o.around) := by
  induction o using Occurrence.induction with
  | h o ih => exact visit_of_children path (visitAll_of_each language source path base ih)

end Walk

/-! ## What is extracted at a node -/

/-- Whether a construct is a function. -/
def Construct.isFunction : Construct → Bool
  | .function _ => true
  | _ => false

/-- The name of a function, if the construct is one that has a name. -/
def Construct.functionName? : Construct → Option String
  | .function name => name
  | _ => none

namespace Occurrence

variable (language : Language) (source path : String) (o : Occurrence)

/-- Whether some node around is a function. -/
def isInFunction : Bool := o.around.any fun s => (s.construct language source).isFunction

/-- The name of the nearest function around that has one. -/
def caller? : Option String :=
  o.around.findSome? fun s => (s.construct language source).functionName?

/-- The function that a node declares. -/
def function? : Option FunctionFact :=
  match o.construct language source with
  | .function (some name) | .signature name => some ⟨name, path, o.node.start.row + 1⟩
  | _ => none

/-- The class that a node declares. -/
def class? : Option ClassFact :=
  match o.construct language source with
  | .class (some name) bases => some ⟨name, path, bases, o.node.start.row + 1⟩
  | _ => none

/-- The modules that a node imports. -/
def imports : List ImportFact :=
  if o.isInFunction language source then []
  else match o.construct language source with
    | .imports specifiers => specifiers.map fun s => ⟨s, o.node.start.row + 1⟩
    | .call _ (some specifier) => [⟨specifier, o.node.start.row + 1⟩]
    | _ => []

/-- The call that a node makes. -/
def call? : Option CallFact :=
  match o.construct language source with
  | .call (.identifier name) _ | .call (.member name) _ =>
    some ⟨o.caller? language source, name, o.node.start.row + 1⟩
  | _ => none

/-- Outside every function is where no node around is a function. -/
theorem isModule_scopeInside (sites : List Site) :
    (scopeInside language source .module sites).isModule
      = !sites.any fun s => (s.construct language source).isFunction := by
  rw [Bool.eq_iff_iff, scopeInside, Scope.isModule, List.isEmpty_iff, Scope.module,
    List.append_nil, List.filterMap_eq_nil_iff, Bool.not_eq_true', List.any_eq_false]
  refine forall₂_congr fun s _ => ?_
  cases s.construct language source <;> simp [Construct.frame?, Construct.isFunction]

/-- The caller is the nearest function around that has a name. -/
theorem caller_scopeInside (sites : List Site) :
    (scopeInside language source .module sites).caller
      = sites.findSome? fun s => (s.construct language source).functionName? := by
  rw [scopeInside, Scope.caller, Scope.module, List.append_nil]
  induction sites with
  | nil => rfl
  | cons s sites ih =>
    rw [List.findSome?_cons]
    cases hc : s.construct language source with
    | function name =>
      rw [List.filterMap_cons_some (b := ⟨name⟩) (by rw [hc]; rfl), List.findSome?_cons, ih]
      rfl
    | _ =>
      rw [List.filterMap_cons_none (by rw [hc]; rfl), ih]
      rfl

/-- **What a walk finds at a node** is what is extracted there. -/
theorem factsAt_eq :
    factsAt language source path .module o
      = (o.function? language source path).toList.map .function
        ++ (o.class? language source path).toList.map .class
        ++ (o.call? language source).toList.map .call
        ++ (o.imports language source).map .importing := by
  have hcaller := caller_scopeInside language source o.around
  have hmodule := isModule_scopeInside language source o.around
  rw [← caller?] at hcaller
  rw [← isInFunction] at hmodule
  rw [factsAt, function?, class?, call?, imports]
  cases hin : o.isInFunction language source <;> rw [hin] at hmodule <;>
    cases o.construct language source with
    | function name => cases name <;> rfl
    | «class» name bases => cases name <;> rfl
    | imports specifiers => simp [ownFacts, hmodule, Tree.line]
    | call callee loaded =>
      cases callee <;> cases loaded <;>
        simp [ownFacts, hmodule, hcaller, Callee.name?, Tree.line]
    | _ => rfl

/-- The functions among the facts of a node: the one that the node defines, if it defines one. -/
theorem function?_factsAt :
    (factsAt language source path .module o).filterMap Fact.function?
      = (o.function? language source path).toList := by
  simp [factsAt_eq, Function.comp_def, Fact.function?]

/-- The classes among the facts of a node: the one that the node defines, if it defines one. -/
theorem class?_factsAt :
    (factsAt language source path .module o).filterMap Fact.class?
      = (o.class? language source path).toList := by
  simp [factsAt_eq, Function.comp_def, Fact.class?]

/-- The imports among the facts of a node are those that the node makes. -/
theorem import?_factsAt :
    (factsAt language source path .module o).filterMap Fact.import?
      = o.imports language source := by
  simp [factsAt_eq, Function.comp_def, Fact.import?]

/-- The calls among the facts of a node: the one that the node makes, if it makes one. -/
theorem call?_factsAt :
    (factsAt language source path .module o).filterMap Fact.call?
      = (o.call? language source).toList := by
  simp [factsAt_eq, Function.comp_def, Fact.call?]

end Occurrence

/-- The imports of a file are those of its nodes. -/
theorem imports_fileFacts (language : Language) (source path : String) (root : Tree) :
    (fileFacts language source path root).imports
      = (Occurrence.ofRoot root).listed.flatMap (·.imports language source) := by
  have hvisit : (visit language source path none root .module).1
      = (Occurrence.ofRoot root).listed.flatMap (factsAt language source path .module) :=
    congrArg Prod.fst (visit_eq_listed language source path .module (.ofRoot root))
  rw [fileFacts, hvisit, FileFacts.ofFacts]
  simp only [List.filterMap_flatMap, Occurrence.import?_factsAt]

/-- **A walk extracts what a declarative reading of the tree gives**, for every language, text and
tree. Let `nodes` be the nodes reached from the root through named children, each with the nodes
around it, in the order of the text. The functions are those that the nodes declare, named functions
and signatures alike, and the classes those with a name. Each call of something with a name belongs
to the nearest function around it that has a name. Imports are those of nodes with no function
around them. Every fact has the line on which its node starts. And whatever the scope in which a
node is visited, the visit leaves it as it was. -/
theorem walk_extracts_declared (language : Language) (source path : String) (root : Tree) :
    let nodes := (Occurrence.ofRoot root).listed
    fileFacts language source path root
        = { path
            name := Path.baseName path
            language
            functions := nodes.filterMap (·.function? language source path)
            classes := nodes.filterMap (·.class? language source path)
            imports := nodes.flatMap (·.imports language source)
            calls := nodes.filterMap (·.call? language source) } ∧
      (∀ o, o ∈ nodes ↔ (Occurrence.ofRoot root).Reaches o) ∧
      nodes.Pairwise Occurrence.Precedes ∧
      ∀ place t scope, (visit language source path place t scope).2 = scope := by
  intro nodes
  refine ⟨?_, fun o => Occurrence.mem_listed, Occurrence.pairwise_listed _, fun place t scope => ?_⟩
  · have hvisit : visit language source path none root .module
        = (nodes.flatMap (factsAt language source path .module), .module) :=
      visit_eq_listed language source path .module (.ofRoot root)
    rw [fileFacts, hvisit, FileFacts.ofFacts, FileFacts.empty]
    simp only [List.filterMap_flatMap, Occurrence.function?_factsAt, Occurrence.class?_factsAt,
      Occurrence.import?_factsAt, Occurrence.call?_factsAt, ← List.filterMap_eq_flatMap_toList]
  · exact congrArg Prod.snd (visit_eq_listed language source path scope ⟨⟨t, place⟩, []⟩)

end CodeGraph.Extraction
