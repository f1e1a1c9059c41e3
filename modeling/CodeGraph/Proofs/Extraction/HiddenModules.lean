import CodeGraph.Proofs.Extraction.Comments
import CodeGraph.Proofs.Extraction.Occurrences

/-! # What comments hide

The nodes of a tree without comments are the nodes of the tree that are no comments, each seen from
its place there (`Occurrence.listed_bare`), and they are the same constructs but for modules that
comments hide (`Site.construct_bare`). So comments take nothing from the facts of a tree but modules
that are hidden in this way (`comments_hide_only_modules`). -/

namespace CodeGraph.Extraction

/-! ## Nodes without comments -/

/-- The module that a comment hides from a call, where the language has calls that load modules. -/
def hiddenModule (language : Language) (source : String) (t : Tree) : Option String :=
  match language with
  | .javaScript | .typeScript => JavaScript.hiddenModule source t
  | .python => none

/-- A comment is no construct in any of the languages. -/
theorem classify_of_isComment (language : Language) (source : String) (place : Option Place)
    {t : Tree} (h : t.isComment) : classify language source place t = .other := by
  cases language with
  | python => exact Python.classify_of_isComment source place h
  | _ => exact JavaScript.classify_of_isComment source place h

namespace Site

/-- The node in the tree without comments, at its place there. -/
def bare (s : Site) : Site := ⟨s.node.withoutComments, s.place.map Place.bare⟩

/-- A node that stands at its place, where comments stand loose. -/
structure Holds (s : Site) : Prop where
  loose : s.node.LooseComments
  place : ∀ p ∈ s.place, p.Holds s.node

/-- **A node is the same construct without comments**, but for the module that a comment hides from
a call. -/
theorem construct_bare {s : Site} (h : s.Holds) (language : Language) (source : String) :
    s.bare.construct language source
      = (s.construct language source).loading (hiddenModule language source s.node) := by
  cases hcomment : s.node.isComment with
  | true =>
    have hbare : s.node.withoutComments.isComment := by
      simpa [Tree.isComment] using hcomment
    rw [construct, construct, classify_of_isComment _ _ _ hcomment, bare,
      classify_of_isComment _ _ _ hbare]
    rfl
  | false =>
    cases language with
    | python =>
      refine (Python.classify_bare h.loose h.place hcomment source).trans ?_
      cases hc : Python.classify source s.place s.node <;>
        simp [construct, classify, hc, Construct.loading, hiddenModule]
    | _ => exact JavaScript.classify_bare h.loose h.place hcomment source

end Site

namespace Occurrence

/-- The node in the tree without comments, with what is around it there. -/
def bare (o : Occurrence) : Occurrence := ⟨o.toSite.bare, o.around.map Site.bare⟩

/-- A node that stands at its place with all nodes around it, where comments stand loose. -/
def Holds (o : Occurrence) : Prop := ∀ s ∈ o.toSite :: o.around, s.Holds

/-- The root of a tree whose comments stand loose `Holds`. -/
theorem holds_ofRoot {root : Tree} (h : root.LooseComments) : (ofRoot root).Holds := by
  refine List.forall_mem_singleton.2 ⟨h, fun p hp => ?_⟩
  cases hp

/-- If a node with all around it `Holds`, then so does each of its children. -/
theorem Holds.child {o : Occurrence} (h : o.Holds) {index : Nat} {t : Tree}
    (ht : o.node.children[index]? = some t) : (o.child index t).Holds := by
  have ho : o.toSite.Holds := h _ (List.mem_cons_self ..)
  refine List.forall_mem_cons.2 ⟨⟨ho.loose.child (List.mem_of_getElem? ht), ?_⟩, h⟩
  rintro p hp
  cases hp
  exact ⟨ho.loose, ht⟩

/-- Every node that is reached from one that `Holds` does so too, by induction on the way to it. -/
theorem Holds.of_reaches {o x : Occurrence} (h : o.Holds) (hx : Reaches o x) : x.Holds := by
  induction hx with
  | self => exact h
  | child _ ht _ ih => exact ih.child ht

/-- A child that is no comment comes after those before it that are none. -/
theorem bare_child {o : Occurrence} {before after : List Tree} {t : Tree}
    (h : o.node.children = before ++ t :: after) :
    (o.child before.length t).bare
      = o.bare.child (before.filter (!·.isComment)).length t.withoutComments := by
  have hplace : Place.bare ⟨o.node, before.length⟩
      = ⟨o.node.withoutComments, (before.filter (!·.isComment)).length⟩ := by
    simp [Place.bare, h]
  simp only [child, bare, Site.bare, Option.map_some, hplace, List.map_cons]

/-- One step: what is below a node without comments is what is below it and no comment, if this
holds of each child. -/
theorem occurrencesBelow_bare {o : Occurrence} (h : o.node.LooseComments)
    {before ts : List Tree} (hsplit : o.node.children = before ++ ts)
    (hts : ∀ index, ∀ t ∈ ts, (o.child index t).bare.listed = (o.child index t).bare
      :: ((occurrencesBelow (o.child index t) 0 t.children).filter
        (!·.node.isComment)).map bare) :
    occurrencesBelow o.bare (before.filter (!·.isComment)).length
        ((ts.filter (!·.isComment)).map Tree.withoutComments)
      = ((occurrencesBelow o before.length ts).filter (!·.node.isComment)).map bare := by
  induction ts generalizing before with
  | nil => rfl
  | cons t ts ih =>
    have hfirst := hts before.length t (List.mem_cons_self ..)
    have hrest := ih (List.append_cons before t ts ▸ hsplit)
      fun index c hc => hts index c (List.mem_cons_of_mem t hc)
    rw [List.length_append, List.length_singleton] at hrest
    have hlisted : (o.child before.length t).listed = o.child before.length t
        :: occurrencesBelow (o.child before.length t) 0 t.children := listed_eq _
    have hnode : (o.child before.length t).node = t := rfl
    cases ht : t.isComment with
    | true =>
      -- a comment is left out, and there is nothing below it
      have hnil : t.children = [] := h.children_eq (by simp [hsplit]) ht
      have hbelow : occurrencesBelow (o.child before.length t) 0 t.children = [] := by
        rw [hnil, occurrencesBelow]
      rw [List.filter_append, List.filter_singleton, ht] at hrest
      rw [List.filter_cons_of_neg (by simp [ht]), occurrencesBelow_cons, hlisted, hbelow]
      split <;> simpa [hnode, ht] using hrest
    | false =>
      rw [List.filter_append, List.filter_singleton, ht] at hrest
      rw [List.filter_cons_of_pos (by simp [ht]), List.map_cons, occurrencesBelow_cons,
        occurrencesBelow_cons, ← bare_child hsplit, hfirst, hlisted]
      simp only [Tree.named_withoutComments, List.filter_append, List.map_append]
      split <;> simpa [hnode, ht] using hrest

/-- **The nodes without comments** are the nodes that are no comments. -/
theorem listed_bare {o : Occurrence} (h : o.node.LooseComments) :
    o.bare.listed
      = o.bare :: ((occurrencesBelow o 0 o.node.children).filter
        (!·.node.isComment)).map bare := by
  induction o using Occurrence.induction with
  | h o ih =>
    have hchildren : o.bare.node.children
        = (o.node.children.filter (!·.isComment)).map Tree.withoutComments :=
      Tree.children_withoutComments _
    rw [listed_eq, hchildren]
    have hsplit : o.node.children = [] ++ o.node.children := rfl
    exact congrArg (o.bare :: ·)
      (occurrencesBelow_bare h hsplit fun index t ht => ih index t ht (h.child ht))

/-- The module that a comment hides from a call outside every function. -/
def hiddenModule? (language : Language) (source : String) (o : Occurrence) : Option String :=
  match o.construct language source with
  | .call _ none =>
    if o.isInFunction language source then none else hiddenModule language source o.node
  | _ => none

/-- The imports that a comment hides. -/
def hiddenImports (language : Language) (source : String) (o : Occurrence) : List ImportFact :=
  (o.hiddenModule? language source).toList.map fun s => ⟨s, o.node.start.row + 1⟩

end Occurrence

/-! ## Facts without comments -/

section Facts

variable (language : Language) (source path : String)

/-- The scope at a node is the same without comments. -/
theorem scopeInside_bare {sites : List Site} (h : ∀ s ∈ sites, s.Holds) (base : Scope) :
    scopeInside language source base (sites.map Site.bare)
      = scopeInside language source base sites := by
  have hframe : ∀ (c : Construct) (module : Option String),
      (c.loading module).frame? = c.frame? := by
    intro c module
    cases c <;> rfl
  rw [scopeInside, scopeInside, List.filterMap_map]
  congr 2
  refine List.filterMap_congr fun s hs => ?_
  rw [Function.comp_apply, Site.construct_bare (h s hs), hframe]

/-- **What is found at a node** is also found without comments, and then the module that a comment
hid. -/
theorem factsAt_bare {o : Occurrence} (h : o.Holds) :
    factsAt language source path .module o.bare
      = factsAt language source path .module o
        ++ (o.hiddenImports language source).map .importing := by
  obtain ⟨hsite, haround⟩ := List.forall_mem_cons.1 h
  have hmodule := Occurrence.isModule_scopeInside language source o.around
  rw [← Occurrence.isInFunction] at hmodule
  have hconstruct : o.bare.construct language source = _ :=
    Site.construct_bare hsite language source
  have hline : o.bare.node.line = o.node.line := Tree.line_withoutComments _
  have hscope : scopeInside language source .module o.bare.around
      = scopeInside language source .module o.around := scopeInside_bare language source haround _
  rw [factsAt, hconstruct, hline, hscope, factsAt, Occurrence.hiddenImports,
    Occurrence.hiddenModule?]
  cases hc : o.construct language source with
  | call callee loaded =>
    cases loaded with
    | some s => simp [Construct.loading, ownFacts]
    | none =>
      cases hin : o.isInFunction language source <;> rw [hin] at hmodule <;>
        cases hiddenModule language source o.node <;>
          simp [Construct.loading, ownFacts, hmodule, Tree.line]
  | _ => simp [Construct.loading]

/-- Nothing is found at a comment. -/
theorem factsAt_of_isComment {o : Occurrence} (h : o.node.isComment) :
    factsAt language source path .module o
      ++ (o.hiddenImports language source).map .importing = [] := by
  have hconstruct : o.construct language source = .other :=
    classify_of_isComment language source o.place h
  simp [factsAt, Occurrence.hiddenImports, Occurrence.hiddenModule?, hconstruct, ownFacts]

/-- A walk over the tree without comments finds what is found at each node and what comments hide
there. -/
theorem visit_withoutComments {root : Tree} (h : root.LooseComments) :
    (visit language source path none root.withoutComments .module).1
      = (Occurrence.ofRoot root).listed.flatMap fun o =>
        factsAt language source path .module o
          ++ (o.hiddenImports language source).map .importing := by
  have hholds := Occurrence.holds_ofRoot h
  have hbelow : ∀ o ∈ occurrencesBelow (.ofRoot root) 0 root.children, o.Holds := by
    intro o ho
    refine hholds.of_reaches (Occurrence.mem_listed.1 ?_)
    rw [Occurrence.listed_eq]
    exact List.mem_cons_of_mem _ ho
  have hvisit := congrArg Prod.fst
    (visit_eq_listed language source path .module (Occurrence.ofRoot root).bare)
  refine hvisit.trans ?_
  dsimp only
  rw [Occurrence.listed_bare h, Occurrence.listed_eq, List.flatMap_cons, List.flatMap_cons,
    factsAt_bare language source path hholds]
  congr 1
  have hnode : (Occurrence.ofRoot root).node = root := rfl
  rw [hnode]
  -- the root stays in any case, so the induction is on the nodes below it
  generalize occurrencesBelow (.ofRoot root) 0 root.children = os at hbelow
  induction os with
  | nil => rfl
  | cons o os ih =>
    rw [List.forall_mem_cons] at hbelow
    cases ho : o.node.isComment with
    | true =>
      -- a comment gives no facts, and it is not in the tree without comments
      rw [List.filter_cons_of_neg (by simp [ho]), List.flatMap_cons,
        factsAt_of_isComment language source path ho, ih hbelow.2, List.nil_append]
    | false =>
      rw [List.filter_cons_of_pos (by simp [ho]), List.map_cons, List.flatMap_cons,
        List.flatMap_cons, factsAt_bare language source path hbelow.1, ih hbelow.2]

end Facts

/-- Collecting two lists for each element collects as much as collecting them one after the
other. -/
theorem length_flatMap_append {α β : Type} (f g : α → List β) (xs : List α) :
    (xs.flatMap fun a => f a ++ g a).length = (xs.flatMap f).length + (xs.flatMap g).length := by
  induction xs with
  | nil => rfl
  | cons a xs ih =>
    simp only [List.flatMap_cons, List.length_append, ih]
    omega

/-- **Comments hide modules, and nothing else.** Let comments stand loose in a tree of any language.
The facts of the tree without comments are those of the tree, the same functions, classes with their
bases and calls with their callers, each with its line, and the same imports but for those that
comments hide: the modules of calls of `require` in which a comment stands before the text of the
module. So the facts are the same exactly if there is no such call outside every function. In Python
there is none. -/
theorem comments_hide_only_modules {root : Tree} (h : root.LooseComments) (language : Language)
    (source path : String) :
    let nodes := (Occurrence.ofRoot root).listed
    let facts := fileFacts language source path root
    let bare := fileFacts language source path root.withoutComments
    bare = { facts with
      imports := nodes.flatMap fun o =>
        o.imports language source ++ o.hiddenImports language source } ∧
    facts.imports = nodes.flatMap (·.imports language source) ∧
    (bare = facts ↔ ∀ o, (Occurrence.ofRoot root).Reaches o →
      o.hiddenModule? language source = none) ∧
    (language = .python → bare = facts) := by
  intro nodes facts bare
  have hvisit : (visit language source path none root .module).1
      = nodes.flatMap (factsAt language source path .module) :=
    congrArg Prod.fst (visit_eq_listed language source path .module (.ofRoot root))
  have himports : facts.imports = nodes.flatMap (·.imports language source) := by
    simp only [facts, fileFacts, FileFacts.ofFacts, hvisit, List.filterMap_flatMap,
      Occurrence.import?_factsAt]
  have hbare : bare = { facts with
      imports := nodes.flatMap fun o =>
        o.imports language source ++ o.hiddenImports language source } := by
    simp only [bare, facts, fileFacts, FileFacts.ofFacts, hvisit,
      visit_withoutComments language source path h, List.filterMap_flatMap, List.filterMap_append,
      List.filterMap_map, Occurrence.import?_factsAt]
    simp [Function.comp_def, Fact.function?, Fact.class?, Fact.call?, Fact.import?, nodes]
  have hiff : bare = facts ↔ ∀ o, (Occurrence.ofRoot root).Reaches o →
      o.hiddenModule? language source = none := by
    have hempty : ∀ o : Occurrence,
        o.hiddenImports language source = [] ↔ o.hiddenModule? language source = none := by
      intro o
      simp [Occurrence.hiddenImports]
    simp only [← Occurrence.mem_listed, ← hempty]
    constructor
    · intro heq
      -- no import is left for those that comments would hide
      have hlength := congrArg (·.imports.length) (hbare.symm.trans heq)
      dsimp only at hlength
      rw [length_flatMap_append, himports, Nat.add_eq_left, List.length_eq_zero_iff,
        List.flatMap_eq_nil_iff] at hlength
      exact hlength
    · intro hnone
      have hsame : (nodes.flatMap fun o =>
          o.imports language source ++ o.hiddenImports language source) = facts.imports := by
        rw [himports]
        refine List.flatMap_congr fun o ho => ?_
        rw [hnone o ho, List.append_nil]
      rw [hbare, hsame]
  refine ⟨hbare, himports, hiff, ?_⟩
  rintro rfl
  refine hiff.2 fun o _ => ?_
  rw [Occurrence.hiddenModule?]
  split
  · split <;> rfl
  · rfl

/-! ### A module that a comment hides -/

/-- The text of the sample. -/
def commentedText : String := "require(/* c */ \"./a\")"

/-- The tree of the sample: a call with a comment before its argument. -/
def commentedCall : Tree :=
  let node (kind : String) (field : Option String) (start stop : Nat) (children : List Tree) :=
    ({ kind, named := true, field, start := { byte := start, column := start },
       stop := { byte := stop, column := stop }, children } : Tree)
  node "program" none 0 22 [node "expression_statement" none 0 22 [
    node "call_expression" none 0 22 [
      node "identifier" (some "function") 0 7 [],
      node "arguments" (some "arguments") 7 22 [
        node "comment" none 8 15 [],
        node "string" none 16 21 [node "string_fragment" none 17 20 []]]]]]

/-- The comment of the sample stands loose. -/
theorem looseComments_commentedCall : commentedCall.LooseComments := by
  have hleaf : ∀ t : Tree, t.children = [] → t.LooseComments := by
    intro t ht
    exact .intro (by simp [ht]) (by simp [ht])
  refine .intro (by simp [commentedCall, Tree.isComment]) (List.forall_mem_singleton.2 ?_)
  refine .intro (by simp [Tree.isComment]) (List.forall_mem_singleton.2 ?_)
  refine .intro (by simp [Tree.isComment]) (List.forall_mem_cons.2 ⟨hleaf _ rfl, ?_⟩)
  refine List.forall_mem_singleton.2 (.intro (by simp [Tree.isComment]) ?_)
  refine List.forall_mem_cons.2 ⟨hleaf _ rfl, List.forall_mem_singleton.2 ?_⟩
  exact .intro (by simp [Tree.isComment]) (List.forall_mem_singleton.2 (hleaf _ rfl))

/-- The facts of a call with a comment before its argument, with and without the comment. -/
theorem comments_hide_only_modules_commented :
    let facts := fileFacts .javaScript commentedText "a.js" commentedCall
    let bare := fileFacts .javaScript commentedText "a.js" commentedCall.withoutComments
    commentedCall.LooseComments ∧ bare = { facts with imports := [⟨"./a", 1⟩] } ∧
      ∃ o, (Occurrence.ofRoot commentedCall).Reaches o ∧
        o.hiddenModule? .javaScript commentedText ≠ none := by
  intro facts bare
  have hfacts : facts = { FileFacts.empty "a.js" .javaScript with
      calls := [⟨none, "require", 1⟩] } := by decide +kernel
  have hbare : bare = { FileFacts.empty "a.js" .javaScript with
      imports := [⟨"./a", 1⟩], calls := [⟨none, "require", 1⟩] } := by decide +kernel
  obtain ⟨-, -, hiff, -⟩ :=
    comments_hide_only_modules looseComments_commentedCall .javaScript commentedText "a.js"
  refine ⟨looseComments_commentedCall, by rw [hfacts, hbare], ?_⟩
  by_contra hnone
  have heq : bare = facts := hiff.2 fun o ho => by_contra fun h => hnone ⟨o, ho, h⟩
  rw [hfacts, hbare] at heq
  cases heq

/-- **A comment can take an import from the facts of a file.** -/
theorem module_hidden_by_comment :
    commentedCall.LooseComments ∧
      fileFacts .javaScript commentedText "a.js" commentedCall.withoutComments
        ≠ fileFacts .javaScript commentedText "a.js" commentedCall :=
  ⟨looseComments_commentedCall, by decide +kernel⟩

end CodeGraph.Extraction
