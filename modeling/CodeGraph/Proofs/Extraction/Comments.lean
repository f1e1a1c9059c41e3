import CodeGraph.Extraction.Walk
import Mathlib.Data.List.Basic

/-! # Comments in syntax trees

Comments can stand anywhere in a tree. They have no role there and nothing below them
(`Tree.LooseComments`), so that what is picked by its role or by its kind is the same if all of them
are taken out (`Tree.withoutComments`): each node is the same construct then, with one exception
(`JavaScript.classify_bare`, `Python.classify_bare`). The module that a call of `require` loads is
the first of its arguments, and a comment that stands before it is taken for the argument
(`JavaScript.hiddenModule`). -/

namespace CodeGraph

/-! ## Trees without comments -/

namespace Tree

/-- Whether a node is a comment. -/
def isComment (t : Tree) : Bool := t.kind == "comment" || t.kind == "html_comment"

/-- A comment is of one of the two kinds that grammars give comments. -/
theorem kind_of_isComment {t : Tree} (h : t.isComment) :
    t.kind = "comment" ∨ t.kind = "html_comment" := by
  simpa [isComment] using h

mutual
/-- The tree with all comments below it taken out. -/
def withoutComments : Tree → Tree
  | ⟨kind, named, field, isError, isMissing, hasError, start, stop, children⟩ =>
    ⟨kind, named, field, isError, isMissing, hasError, start, stop, withoutCommentsIn children⟩

/-- The trees that are no comments, with all comments below them taken out. -/
def withoutCommentsIn : List Tree → List Tree
  | [] => []
  | t :: ts =>
    if t.isComment then withoutCommentsIn ts else withoutComments t :: withoutCommentsIn ts
end

/-- **Comments stand loose in a tree**: they have no role in their parents and nothing below
them. -/
inductive LooseComments : Tree → Prop
  | intro {t : Tree}
      (comments : ∀ c ∈ t.children, c.isComment → c.field = none ∧ c.children = [])
      (below : ∀ c ∈ t.children, LooseComments c) : LooseComments t

/-- A loose comment has no role in its parent. -/
theorem LooseComments.field_eq {t c : Tree} (h : t.LooseComments) (hc : c ∈ t.children)
    (hcomment : c.isComment) : c.field = none := by
  cases h with
  | intro comments _ => exact (comments c hc hcomment).1

/-- A loose comment has nothing below it. -/
theorem LooseComments.children_eq {t c : Tree} (h : t.LooseComments) (hc : c ∈ t.children)
    (hcomment : c.isComment) : c.children = [] := by
  cases h with
  | intro comments _ => exact (comments c hc hcomment).2

/-- Comments stand loose below every child as well. -/
theorem LooseComments.child {t c : Tree} (h : t.LooseComments) (hc : c ∈ t.children) :
    c.LooseComments := by
  cases h with
  | intro _ below => exact below c hc

/-- `withoutCommentsIn` drops the comments of a list and cleans the other trees. -/
theorem withoutCommentsIn_eq (ts : List Tree) :
    withoutCommentsIn ts = (ts.filter (!·.isComment)).map withoutComments := by
  induction ts with
  | nil => rw [withoutCommentsIn]; rfl
  | cons t ts ih =>
    rw [withoutCommentsIn, ih]
    cases hcomment : t.isComment <;> simp [hcomment]

/-- `withoutComments` changes nothing of a node but its children. -/
theorem withoutComments_eq (t : Tree) :
    t.withoutComments
      = { t with children := (t.children.filter (!·.isComment)).map withoutComments } := by
  obtain ⟨_, _, _, _, _, _, _, _, _⟩ := t
  rw [withoutComments, withoutCommentsIn_eq]

section Same

variable (t : Tree)

/-- `withoutComments` keeps the kind of a node. -/
@[simp] theorem kind_withoutComments : t.withoutComments.kind = t.kind := by
  rw [withoutComments_eq]

/-- `withoutComments` keeps whether a node is named. -/
@[simp] theorem named_withoutComments : t.withoutComments.named = t.named := by
  rw [withoutComments_eq]

/-- `withoutComments` keeps the role of a node. -/
@[simp] theorem field_withoutComments : t.withoutComments.field = t.field := by
  rw [withoutComments_eq]

/-- `withoutComments` keeps the text of a node, comments inside it included. -/
@[simp] theorem text_withoutComments (source : String) :
    t.withoutComments.text source = t.text source := by
  rw [withoutComments_eq]
  rfl

/-- `withoutComments` keeps the line of a node. -/
@[simp] theorem line_withoutComments : t.withoutComments.line = t.line := by
  rw [withoutComments_eq]
  rfl

/-- The children left by `withoutComments` are those that are no comments, cleaned. -/
theorem children_withoutComments :
    t.withoutComments.children = (t.children.filter (!·.isComment)).map withoutComments := by
  rw [withoutComments_eq]

end Same

/-! ### Children -/

/-- A child with a role is no comment. -/
theorem LooseComments.not_isComment {t c : Tree} {field : String} (h : t.LooseComments)
    (hc : c ∈ t.children) (hfield : c.field == some field) : c.isComment = false := by
  cases hcomment : c.isComment with
  | false => rfl
  | true =>
    rw [h.field_eq hc hcomment] at hfield
    cases hfield

/-- The children with a role are the same without comments, which have no role. -/
theorem childrenByField_withoutComments {t : Tree} (h : t.LooseComments) (field : String) :
    t.withoutComments.childrenByField field
      = (t.childrenByField field).map withoutComments := by
  rw [childrenByField, childrenByField, children_withoutComments, List.filter_map,
    List.filter_filter]
  congr 1
  refine List.filter_congr fun c hc => ?_
  cases hfield : c.field == some field with
  | false => simp [hfield]
  | true => simp [hfield, h.not_isComment hc hfield]

/-- `childByField` is the first of the children with the role. -/
theorem childByField_eq_head? (t : Tree) (field : String) :
    t.childByField field = (t.childrenByField field).head? :=
  List.head?_filter.symm

/-- The child with a role is the same without comments. -/
theorem childByField_withoutComments {t : Tree} (h : t.LooseComments) (field : String) :
    t.withoutComments.childByField field = (t.childByField field).map withoutComments := by
  rw [childByField_eq_head?, childByField_eq_head?, childrenByField_withoutComments h,
    List.head?_map]

/-- The child with a role is a child. -/
theorem mem_of_childByField {t c : Tree} {field : String} (h : t.childByField field = some c) :
    c ∈ t.children :=
  List.mem_of_find?_eq_some h

/-- A named child is a child. -/
theorem mem_of_mem_namedChildren {t c : Tree} (h : c ∈ t.namedChildren) : c ∈ t.children :=
  (List.mem_filter.1 h).1

/-- The named children left by `withoutComments` are those that are no comments, cleaned. -/
theorem namedChildren_withoutComments (t : Tree) :
    t.withoutComments.namedChildren
      = (t.namedChildren.filter (!·.isComment)).map withoutComments := by
  rw [namedChildren, namedChildren, children_withoutComments, List.filter_map, List.filter_filter,
    List.filter_filter]
  congr 1
  refine List.filter_congr fun c _ => ?_
  simp [Bool.and_comm]

/-- What is gathered from named children is the same without comments, if comments give nothing to
it. -/
theorem flatMap_namedChildren_withoutComments {α : Type} {t : Tree} {f : Tree → List α}
    (hcomment : ∀ c ∈ t.children, c.isComment → f c = [])
    (hsame : ∀ c ∈ t.children, f c.withoutComments = f c) :
    t.withoutComments.namedChildren.flatMap f = t.namedChildren.flatMap f := by
  rw [namedChildren_withoutComments, List.flatMap_map]
  have hmem : ∀ c ∈ t.namedChildren, c ∈ t.children := fun c => mem_of_mem_namedChildren
  generalize t.namedChildren = ts at hmem
  induction ts with
  | nil => rfl
  | cons c ts ih =>
    rw [List.forall_mem_cons] at hmem
    cases hc : c.isComment with
    | true =>
      rw [List.filter_cons_of_neg (by simp [hc]), List.flatMap_cons, hcomment c hmem.1 hc,
        List.nil_append, ih hmem.2]
    | false =>
      rw [List.filter_cons_of_pos (by simp [hc]), List.flatMap_cons, List.flatMap_cons,
        hsame c hmem.1, ih hmem.2]

/-- What is collected from named children does not depend on comments, if comments give nothing and
cleaning a child changes nothing of what it gives. -/
theorem filterMap_namedChildren_withoutComments {α : Type} {t : Tree} {f : Tree → Option α}
    (hcomment : ∀ c ∈ t.children, c.isComment → f c = none)
    (hsame : ∀ c ∈ t.children, f c.withoutComments = f c) :
    t.withoutComments.namedChildren.filterMap f = t.namedChildren.filterMap f := by
  rw [List.filterMap_eq_flatMap_toList, List.filterMap_eq_flatMap_toList]
  refine flatMap_namedChildren_withoutComments (fun c hc hc' => ?_) fun c hc => ?_
  · rw [hcomment c hc hc']
    rfl
  · rw [hsame c hc]

/-- The named children of a kind, which is not that of comments. -/
theorem filter_namedChildren_withoutComments (t : Tree) {kind : String}
    (hkind : ¬ (kind = "comment" ∨ kind = "html_comment")) :
    t.withoutComments.namedChildren.filter (·.kind == kind)
      = (t.namedChildren.filter (·.kind == kind)).map withoutComments := by
  rw [namedChildren_withoutComments, List.filter_map, List.filter_filter]
  congr 1
  refine List.filter_congr fun c _ => ?_
  have hcomment : c.kind = kind → c.isComment = false := by
    rintro rfl
    exact Bool.eq_false_iff.2 fun hc => hkind (kind_of_isComment hc)
  by_cases hc : c.kind = kind
  · simp [hc, hcomment hc]
  · simp [hc]

/-- The first named child of a kind is the same without comments, if comments are not of that
kind. -/
theorem find?_namedChildren_withoutComments (t : Tree) {kind : String}
    (hkind : ¬ (kind = "comment" ∨ kind = "html_comment")) :
    t.withoutComments.namedChildren.find? (·.kind == kind)
      = (t.namedChildren.find? (·.kind == kind)).map withoutComments := by
  rw [← List.head?_filter, ← List.head?_filter, filter_namedChildren_withoutComments t hkind,
    List.head?_map]

end Tree

namespace Extraction

/-! ## Constructs without comments -/

/-- Among the members that are kept, the first with a property has as many before it as are kept of
those before it. -/
theorem findIdx?_filter_eq_iff {α : Type} {p keep : α → Bool} {xs : List α} {i : Nat} {x : α}
    (hkeep : ∀ y ∈ xs, p y → keep y) (hx : xs[i]? = some x) (hxkeep : keep x) :
    (xs.filter keep).findIdx? p = some ((xs.take i).filter keep).length ↔
      xs.findIdx? p = some i := by
  induction xs generalizing i with
  | nil => cases hx
  | cons y ys ih =>
    rw [List.forall_mem_cons] at hkeep
    cases i with
    | zero =>
      obtain rfl : y = x := by simpa using hx
      rw [List.filter_cons_of_pos hxkeep, List.findIdx?_cons, List.findIdx?_cons]
      by_cases hp : p y <;> simp [hp]
    | succ i =>
      have hrest := ih hkeep.2 (by simpa using hx)
      by_cases hp : p y
      · -- the property is there already, both with and without the others
        have hy : keep y := hkeep.1 hp
        simp [List.filter_cons_of_pos hy, List.findIdx?_cons, hp]
      · by_cases hy : keep y <;> simp [hy, List.findIdx?_cons, hp, hrest]

/-- The place in the tree without comments. -/
def Place.bare (p : Place) : Place :=
  ⟨p.parent.withoutComments, ((p.parent.children.take p.index).filter (!·.isComment)).length⟩

/-- The name in a role does not depend on comments. -/
theorem identifierField_withoutComments {t : Tree} (h : t.LooseComments) (source field : String) :
    identifierField source t.withoutComments field = identifierField source t field := by
  rw [identifierField, identifierField, Tree.childByField_withoutComments h]
  cases t.childByField field <;> simp

/-- What a call calls does not depend on comments. -/
theorem calleeBy_withoutComments {t : Tree} (h : t.LooseComments) (kind field source : String) :
    calleeBy kind field source (t.withoutComments.childByField "function")
      = calleeBy kind field source (t.childByField "function") := by
  rw [Tree.childByField_withoutComments h]
  cases hf : t.childByField "function" with
  | none => rfl
  | some f =>
    have hloose := h.child (Tree.mem_of_childByField hf)
    simp only [Option.map_some, calleeBy, Tree.kind_withoutComments, Tree.text_withoutComments,
      identifierField_withoutComments hloose]

/-- A node at a place of the tree. -/
structure Place.Holds (p : Place) (t : Tree) : Prop where
  loose : p.parent.LooseComments
  child : p.parent.children[p.index]? = some t

/-- Whether a node stands in a role of its parent does not depend on the comments around it. -/
theorem Place.Holds.isField_bare {p : Place} {t : Tree} (h : p.Holds t)
    (ht : t.isComment = false) (field : String) : p.bare.isField field = p.isField field := by
  have hfields : ∀ c ∈ p.parent.children, (c.field == some field) → (!c.isComment) := by
    intro c hc hfield
    rw [h.loose.not_isComment hc hfield]
    rfl
  have hiff := findIdx?_filter_eq_iff hfields h.child (by simp [ht])
  rw [Bool.eq_iff_iff, isField, isField, beq_iff_eq, beq_iff_eq, ← hiff, bare,
    Tree.children_withoutComments, List.findIdx?_map]
  simp [Function.comp_def]

/-- The name that a place binds to its value does not depend on the comments around it. -/
theorem Place.Holds.boundName_bare {p : Place} {t : Tree} (h : p.Holds t)
    (ht : t.isComment = false) (source target value : String) :
    p.bare.boundName source target value = p.boundName source target value := by
  have hparent : p.bare.parent = p.parent.withoutComments := rfl
  rw [boundName, boundName, h.isField_bare ht, hparent,
    Tree.childByField_withoutComments h.loose]
  cases p.parent.childByField target <;> simp

/-- The construct with one more module that it may load, if it is a call. -/
def Construct.loading (module : Option String) : Construct → Construct
  | .call callee loaded => .call callee (loaded.or module)
  | c => c

/-! ### JavaScript and TypeScript -/

namespace JavaScript

/-- The value of a string does not depend on the comments below it. -/
theorem stringValue_withoutComments (source : String) (t : Tree) :
    stringValue source t.withoutComments = stringValue source t := by
  simp [stringValue]

/-- A comment is no string. -/
theorem stringValue_of_isComment (source : String) {t : Tree} (h : t.isComment) :
    stringValue source t = none := by
  have hkind : t.kind ≠ "string" := by
    intro heq
    simp [Tree.isComment, heq] at h
  simp [stringValue, hkind]

/-- **The module that a comment hides** from a call of `require`: the first argument is a comment,
and the first that is none is the text of a module. -/
def hiddenModule (source : String) (t : Tree) : Option String :=
  match t.childByField "function" with
  | none => none
  | some f =>
    if f.kind == "identifier" && f.text source == "require" then
      match (t.childByField "arguments").map Tree.namedChildren with
      | some (first :: rest) =>
        if first.isComment then (rest.find? (!·.isComment)).bind (stringValue source) else none
      | _ => none
    else none

/-- The name that a function or class is bound to does not depend on comments. -/
theorem boundName_bare {t : Tree} {place : Option Place} (h : ∀ p ∈ place, p.Holds t)
    (ht : t.isComment = false) (source : String) :
    boundName source (place.map Place.bare) = boundName source place := by
  cases place with
  | none => rfl
  | some p =>
    have hkind : p.bare.parent.kind = p.parent.kind := Tree.kind_withoutComments _
    simp only [Option.map_some, boundName, hkind, (h p rfl).boundName_bare ht]

section Node

variable {t : Tree} (h : t.LooseComments) (source : String)
include h

/-- The bases in a clause do not depend on comments. -/
theorem clauseBases_withoutComments :
    clauseBases source t.withoutComments = clauseBases source t := by
  have hvalues : ((t.withoutComments.childrenByField "value").filter
        (·.kind == "identifier")).map (·.text source)
      = ((t.childrenByField "value").filter (·.kind == "identifier")).map (·.text source) := by
    rw [Tree.childrenByField_withoutComments h, List.filter_map, List.map_map]
    simp [Function.comp_def]
  rw [clauseBases, clauseBases, Tree.kind_withoutComments]
  split
  · rw [Tree.text_withoutComments]
  · exact hvalues
  · refine Tree.filterMap_namedChildren_withoutComments (fun c hc hcomment => ?_) fun c hc => ?_
    · rcases Tree.kind_of_isComment hcomment with hkind | hkind <;> simp [hkind]
    · simp only [Tree.kind_withoutComments, Tree.text_withoutComments,
        Tree.childByField_withoutComments (h.child hc)]
      cases c.childByField "name" with
      | none => rfl
      | some n => simp only [Option.map_some, Tree.kind_withoutComments, Tree.text_withoutComments]
  · rfl

/-- The bases of a class do not depend on comments. -/
theorem bases_withoutComments : bases source t.withoutComments = bases source t := by
  rw [bases, bases, Tree.filter_namedChildren_withoutComments t (by simp), List.flatMap_map]
  refine List.flatMap_congr fun heritage hmem => ?_
  have hloose := h.child (Tree.mem_of_mem_namedChildren (List.mem_filter.1 hmem).1)
  refine Tree.flatMap_namedChildren_withoutComments (fun c _ hcomment => ?_) fun c hc => ?_
  · rcases Tree.kind_of_isComment hcomment with hkind | hkind <;> simp [clauseBases, hkind]
  · exact clauseBases_withoutComments (hloose.child hc) source

/-- The module of an import does not depend on comments. -/
theorem importedModule_withoutComments :
    importedModule source t.withoutComments = importedModule source t := by
  rw [importedModule, importedModule, Tree.childByField_withoutComments h,
    Tree.kind_withoutComments, Tree.find?_namedChildren_withoutComments t (by simp)]
  cases t.childByField "source" with
  | some s => exact stringValue_withoutComments source s
  | none =>
    cases hclause : t.namedChildren.find? (·.kind == "import_require_clause") with
    | none => rfl
    | some clause =>
      have hloose := h.child (Tree.mem_of_mem_namedChildren (List.mem_of_find?_eq_some hclause))
      simp only [Option.map_none, Option.map_some, Tree.childByField_withoutComments hloose]
      cases clause.childByField "source" with
      | some s => simp only [Option.map_some, stringValue_withoutComments]
      | none =>
        rw [Tree.find?_namedChildren_withoutComments clause (by simp), Option.bind_map]
        simp only [Option.map_none, Function.comp_def, stringValue_withoutComments]

/-- **What a comment hides**: without comments a call of `require` names the module that it names
with them, or else the `hiddenModule`. -/
theorem requiredModule_withoutComments :
    requiredModule source t.withoutComments
      = (requiredModule source t).or (hiddenModule source t) := by
  rw [requiredModule, requiredModule, hiddenModule, Tree.childByField_withoutComments h,
    Tree.childByField_withoutComments h]
  cases t.childByField "function" with
  | none => rfl
  | some f =>
    simp only [Option.map_some, Tree.kind_withoutComments, Tree.text_withoutComments]
    split
    · cases t.childByField "arguments" with
      | none => rfl
      | some args =>
        simp only [Option.map_some, Tree.namedChildren_withoutComments, List.head?_map,
          Option.bind_map, Function.comp_def, stringValue_withoutComments]
        cases args.namedChildren with
        | nil => rfl
        | cons first rest =>
          -- only if the first argument is a comment does another one come to be the first
          cases hfirst : first.isComment with
          | false => simp [hfirst]
          | true => simp [hfirst, stringValue_of_isComment source hfirst, List.head?_filter]
    · rfl

end Node

/-- A comment is none of the constructs that are looked for. -/
theorem classify_of_isComment (source : String) (place : Option Place) {t : Tree}
    (h : t.isComment) : classify source place t = .other := by
  rcases Tree.kind_of_isComment h with hkind | hkind <;> simp [classify, hkind]

/-- A node is the same construct without comments, but for the module that a comment hides. -/
theorem classify_bare {t : Tree} {place : Option Place} (h : t.LooseComments)
    (hplace : ∀ p ∈ place, p.Holds t) (ht : t.isComment = false) (source : String) :
    classify source (place.map Place.bare) t.withoutComments
      = (classify source place t).loading (hiddenModule source t) := by
  simp only [classify, Tree.kind_withoutComments, identifierField_withoutComments h,
    boundName_bare hplace ht, bases_withoutComments h, importedModule_withoutComments h,
    callee, calleeBy_withoutComments h, requiredModule_withoutComments h]
  cases identifierField source t "name" <;> cases importedModule source t <;> split <;> rfl

end JavaScript

/-! ### Python -/

namespace Python

/-- The name that a value is assigned to does not depend on comments. -/
theorem assignedName_bare {t : Tree} {place : Option Place} (h : ∀ p ∈ place, p.Holds t)
    (ht : t.isComment = false) (source : String) :
    assignedName source (place.map Place.bare) = assignedName source place := by
  cases place with
  | none => rfl
  | some p =>
    have hkind : p.bare.parent.kind = p.parent.kind := Tree.kind_withoutComments _
    simp only [Option.map_some, assignedName, hkind, (h p rfl).boundName_bare ht]

/-- The name that is imported does not depend on comments. -/
theorem importedName_withoutComments {t : Tree} (h : t.LooseComments) (source : String) :
    importedName source t.withoutComments = importedName source t := by
  simp only [importedName, Tree.kind_withoutComments, Tree.text_withoutComments,
    Tree.childByField_withoutComments h, Option.map_map, Function.comp_def]

section Node

variable {t : Tree} (h : t.LooseComments) (source : String)
include h

/-- The bases of a class do not depend on comments. -/
theorem bases_withoutComments : bases source t.withoutComments = bases source t := by
  rw [bases, bases, Tree.childByField_withoutComments h]
  cases t.childByField "superclasses" with
  | none => rfl
  | some args =>
    dsimp only [Option.map_some]
    rw [Tree.filter_namedChildren_withoutComments args (by simp), List.map_map]
    simp only [Function.comp_def, Tree.text_withoutComments]

/-- The names that are imported from a module do not depend on comments. -/
theorem importedNames_withoutComments :
    (t.withoutComments.childrenByField "name").filterMap (importedName source)
      = (t.childrenByField "name").filterMap (importedName source) := by
  rw [Tree.childrenByField_withoutComments h, List.filterMap_map]
  refine List.filterMap_congr fun c hc => ?_
  exact importedName_withoutComments (h.child (List.mem_filter.1 hc).1) source

end Node

/-- A comment is none of the constructs that are looked for. -/
theorem classify_of_isComment (source : String) (place : Option Place) {t : Tree}
    (h : t.isComment) : classify source place t = .other := by
  rcases Tree.kind_of_isComment h with hkind | hkind <;> simp [classify, hkind]

/-- A node is the same construct without comments. -/
theorem classify_bare {t : Tree} {place : Option Place} (h : t.LooseComments)
    (hplace : ∀ p ∈ place, p.Holds t) (ht : t.isComment = false) (source : String) :
    classify source (place.map Place.bare) t.withoutComments = classify source place t := by
  have hmodule := Tree.childByField_withoutComments h "module_name"
  simp only [classify, Tree.kind_withoutComments, identifierField_withoutComments h,
    assignedName_bare hplace ht, bases_withoutComments h, importedNames_withoutComments h,
    callee, calleeBy_withoutComments h, hmodule]
  cases t.childByField "module_name" with
  | none => simp only [Option.map_none]
  | some m => simp only [Option.map_some, Tree.text_withoutComments]

end Python

end Extraction

end CodeGraph
