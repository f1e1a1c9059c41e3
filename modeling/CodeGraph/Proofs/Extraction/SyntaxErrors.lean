import CodeGraph.Source

/-! # The search for syntax errors misses nothing

Syntax errors are searched with a stack, and trees without a mark are left aside with all that is
below them. Where the marks are right (`Tree.Marked`), this finds what a look at every node finds:
the invariant is that the problems found so far, followed by those of the trees on the stack, stay
the same (`Tree.searchFrom_eq`). So the first problem found is the first in the text, and a text is
refused exactly if a tolerant reader counts a problem in it
(`Source.refused_for_first_problem`). -/

namespace CodeGraph

/-! ## All problems of a tree -/

namespace Findings

/-- Adds the problems of nodes, one after the other. -/
def addAll (f : Findings) (ns : List Tree) : Findings := ns.foldl (fun f n => f.add n.problem) f

/-- Adding the problems of two lists of nodes is adding those of one after those of the other. -/
theorem addAll_append (f : Findings) (ns ms : List Tree) :
    f.addAll (ns ++ ms) = (f.addAll ns).addAll ms :=
  List.foldl_append

/-- Each node adds one to the number of problems, of which only the first is kept. -/
theorem count_addAll (f : Findings) (ns : List Tree) :
    (f.addAll ns).count = f.count + ns.length := by
  induction ns generalizing f with
  | nil => rfl
  | cons n ns ih =>
    have hstep : (f.addAll (n :: ns)).count = ((f.add n.problem).addAll ns).count := rfl
    rw [hstep, ih, List.length_cons]
    show f.count + 1 + ns.length = f.count + (ns.length + 1)
    omega

/-- The problem that is found first stays. -/
theorem first_addAll (f : Findings) (ns : List Tree) :
    (f.addAll ns).first = f.first.or (ns.head?.map Tree.problem) := by
  induction ns generalizing f with
  | nil => simp [addAll]
  | cons n ns ih =>
    have hstep : (f.addAll (n :: ns)).first = ((f.add n.problem).addAll ns).first := rfl
    rw [hstep, ih, add]
    cases f.first <;> simp

end Findings

namespace Tree

mutual
/-- All nodes of a tree, named or not: each before the nodes below it, and children in order. -/
def nodes : Tree → List Tree
  | ⟨kind, named, field, isError, isMissing, hasError, start, stop, children⟩ =>
    ⟨kind, named, field, isError, isMissing, hasError, start, stop, children⟩
      :: nodesOfAll children

/-- All nodes of trees, one tree after the other. -/
def nodesOfAll : List Tree → List Tree
  | [] => []
  | t :: ts => nodes t ++ nodesOfAll ts
end

/-- The nodes of some trees are those of each, one tree after the other. -/
theorem nodesOfAll_eq (ts : List Tree) : nodesOfAll ts = ts.flatMap nodes := by
  induction ts with
  | nil => rfl
  | cons t ts ih => rw [nodesOfAll, ih, List.flatMap_cons]

/-- The nodes of a tree are its root and then the nodes of its children. -/
theorem nodes_eq (t : Tree) : t.nodes = t :: t.children.flatMap nodes := by
  rw [← nodesOfAll_eq]
  cases t
  rw [nodes]

/-- A tree is one of its own nodes. -/
theorem mem_nodes_self (t : Tree) : t ∈ t.nodes := by
  rw [nodes_eq]
  exact List.mem_cons_self

/-- The nodes of a child are nodes of its parent. -/
theorem nodes_subset_of_child {t c : Tree} (hc : c ∈ t.children) : c.nodes ⊆ t.nodes := by
  intro n hn
  rw [nodes_eq]
  exact List.mem_cons_of_mem t (List.mem_flatMap.2 ⟨c, hc, hn⟩)

/-- The nodes that are wrong in themselves, in the order of the text. -/
def wrongNodes (t : Tree) : List Tree := t.nodes.filter isWrong

/-- The wrong nodes of a tree: its root, if that is wrong, and then those of its children. -/
theorem wrongNodes_eq (t : Tree) :
    t.wrongNodes = (if t.isWrong then [t] else []) ++ t.children.flatMap wrongNodes := by
  have hbelow : (t.children.flatMap nodes).filter isWrong = t.children.flatMap wrongNodes :=
    List.filter_flatMap
  rw [wrongNodes, nodes_eq, List.filter_cons, hbelow]
  split <;> rfl

/-- **The marks are right**: a node is marked exactly if it or a node below it is wrong. -/
def Marked (t : Tree) : Prop := ∀ n ∈ t.nodes, n.hasError ↔ ∃ m ∈ n.nodes, m.isWrong

namespace Marked

variable {t : Tree}

/-- If the marks of a tree are right, so are those of its children. -/
theorem child (h : t.Marked) {c : Tree} (hc : c ∈ t.children) : c.Marked := by
  intro n hn
  exact h n (nodes_subset_of_child hc hn)

/-- A tree with right marks is marked exactly when it has a wrong node. -/
theorem hasError_iff (h : t.Marked) : t.hasError ↔ t.wrongNodes ≠ [] := by
  rw [h t (mem_nodes_self t), wrongNodes, ne_eq, List.filter_eq_nil_iff]
  simp

/-- Nothing is lost if a tree without a mark is left aside. -/
theorem wrongNodes_of_not_hasError (h : t.Marked) (ht : ¬ t.hasError) : t.wrongNodes = [] := by
  cases hwrong : t.wrongNodes with
  | nil => rfl
  | cons n ns => exact absurd (h.hasError_iff.2 (by simp [hwrong])) ht

end Marked

/-! ## The search -/

/-- What one tree on the stack adds to the findings, if its children are still to be searched. -/
theorem addAll_flatMap_cons (found : Findings) (t : Tree) (stack : List Tree) :
    found.addAll ((t :: stack).flatMap wrongNodes)
      = (note found t).addAll ((t.children ++ stack).flatMap wrongNodes) := by
  rw [List.flatMap_cons, wrongNodes_eq, List.append_assoc, Findings.addAll_append,
    List.flatMap_append, note]
  split <;> rfl

/-- **All steps**: what is found in the end is what was found before, followed by what is wrong in
the trees on the stack. -/
theorem searchFrom_eq (found : Findings) (stack : List Tree) (h : ∀ t ∈ stack, t.Marked) :
    searchFrom found stack = found.addAll (stack.flatMap wrongNodes) := by
  -- the induction follows the loop: one case for each way in which it goes on
  fun_induction searchFrom found stack with
  | case1 found => rfl
  | case2 found t stack hmark ih =>
    rw [List.forall_mem_cons] at h
    have hchildren : ∀ c ∈ t.children ++ stack, c.Marked := by
      intro c hc
      rcases List.mem_append.1 hc with hc | hc
      · exact h.1.child hc
      · exact h.2 c hc
    rw [stackUp_eq] at ih ⊢
    rw [ih hchildren, addAll_flatMap_cons]
  | case3 found t stack hmark ih =>
    rw [List.forall_mem_cons] at h
    have hnone : t.wrongNodes = [] := h.1.wrongNodes_of_not_hasError hmark
    rw [ih h.2, List.flatMap_cons, hnone, List.nil_append]

/-- **The search finds every problem**, and the first of them first. -/
theorem search_eq {t : Tree} (h : t.Marked) :
    t.search = ⟨t.wrongNodes.length, t.wrongNodes.head?.map problem⟩ := by
  have hfound : t.search = ({} : Findings).addAll t.wrongNodes := by
    rw [search, searchFrom_eq _ _ (List.forall_mem_singleton.2 h), List.flatMap_singleton]
  have hcount := Findings.count_addAll {} t.wrongNodes
  have hfirst := Findings.first_addAll {} t.wrongNodes
  rw [Nat.zero_add] at hcount
  rw [Option.none_or] at hfirst
  rw [hfound, ← hcount, ← hfirst]

end Tree

/-! ## Strict and tolerant reading -/

namespace Source

variable {t : Tree} (dialect : Dialect) (path text : String)

/-- A tolerant reader takes every text. -/
theorem value_ofTree_tolerant (h : t.Marked) :
    (ofTree true dialect path text t).value
      = .ok ⟨Path.slashed path, dialect, text, t, t.wrongNodes.length⟩ := by
  unfold ofTree
  by_cases hmark : t.hasError
  · simp [hmark, Tree.search_eq h]
  · simp [hmark, h.wrongNodes_of_not_hasError hmark]

/-- A strict reader refuses a text for the first node that is wrong. -/
theorem value_ofTree_strict_of_wrong (h : t.Marked) {n : Tree} {ns : List Tree}
    (hwrong : t.wrongNodes = n :: ns) :
    (ofTree false dialect path text t).value
      = .error (.malformed (Path.slashed path) (n.start.row + 1) (n.start.column + 1)
          n.problemMessage) := by
  have hmark : t.hasError := h.hasError_iff.2 (by simp [hwrong])
  unfold ofTree
  simp [hmark, Tree.search_eq h, hwrong, refusal, Tree.problem]

/-- Where nothing is wrong, it makes no difference whether that would be tolerated. -/
theorem ofTree_of_not_wrong (h : t.Marked) (hwrong : t.wrongNodes = []) :
    ofTree false dialect path text t = ofTree true dialect path text t := by
  have hmark : ¬ t.hasError := fun hmark => h.hasError_iff.1 hmark hwrong
  unfold ofTree
  simp [hmark]

/-- `Source.extract` of a path whose language is known parses the text and takes the facts from its
tree. -/
theorem extract_eq {path : String} {dialect : Dialect} (hpath : dialectOf path = .ok dialect)
    (tolerant : Bool) (text : String) :
    extract tolerant path text = (do
      match ← ofTree tolerant dialect path text (dialect.parse text) with
      | .ok p => return .ok (← p.facts path)
      | .error e => return .error e) := by
  unfold extract parse
  rw [hpath]
  rfl

/-- **A text is refused for its first problem.** Let the marks of a tree be right. The search then
counts all nodes that are wrong in themselves, named or not, and its first problem is that of the
first such node; there is none exactly if the count is zero.

Let a text be read as this tree. A tolerant reader takes it and counts its problems; a strict reader
refuses it exactly if there are any, for the first of them and at its place, which has a line and a
column from one on. Otherwise the two give the same source and leave the same log, and extract the
same facts. -/
theorem refused_for_first_problem (t : Tree) (h : t.Marked) :
    t.search = ⟨t.wrongNodes.length, t.wrongNodes.head?.map Tree.problem⟩ ∧
    (t.search.first = none ↔ t.search.count = 0) ∧
    ∀ (dialect : Dialect) (path text : String),
      (dialect.parse text = t →
        ∀ tolerant, parseAs tolerant dialect path text = ofTree tolerant dialect path text t) ∧
      ∃ parsed, (ofTree true dialect path text t).value = .ok parsed ∧ parsed.tree = t ∧
        parsed.errorCount = t.wrongNodes.length ∧
        ((∃ e, (ofTree false dialect path text t).value = .error e) ↔ 0 < parsed.errorCount) ∧
        (∀ e, (ofTree false dialect path text t).value = .error e →
          ∃ n line column, t.wrongNodes.head? = some n ∧ line = n.start.row + 1 ∧
            column = n.start.column + 1 ∧
            e = .malformed (Path.slashed path) line column n.problemMessage ∧
            1 ≤ line ∧ 1 ≤ column) ∧
        (parsed.errorCount = 0 →
          ofTree false dialect path text t = ofTree true dialect path text t ∧
          (dialectOf path = .ok dialect → dialect.parse text = t →
            extract false path text = extract true path text)) := by
  have hsearch := Tree.search_eq h
  refine ⟨hsearch, ?_, fun dialect path text => ⟨?_, ?_⟩⟩
  · rw [hsearch]
    simp
  · rintro rfl tolerant
    rfl
  · refine ⟨_, value_ofTree_tolerant dialect path text h, rfl, rfl, ?_⟩
    -- strict reading differs from tolerant reading exactly if there is a wrong node
    cases hwrong : t.wrongNodes with
    | nil =>
      have hsame := ofTree_of_not_wrong dialect path text h hwrong
      have hok : ∀ e, (ofTree false dialect path text t).value ≠ .error e := by
        intro e he
        rw [hsame, value_ofTree_tolerant dialect path text h] at he
        cases he
      refine ⟨by simp [hok], fun e he => absurd he (hok e), fun _ => ⟨hsame, ?_⟩⟩
      rintro hpath rfl
      rw [extract_eq hpath, extract_eq hpath, hsame]
    | cons n ns =>
      have hrefused := value_ofTree_strict_of_wrong dialect path text h hwrong
      refine ⟨by simp [hrefused], fun e he => ?_, fun hzero => by simp at hzero⟩
      rw [hrefused] at he
      cases he
      exact ⟨n, _, _, rfl, rfl, rfl, rfl, Nat.le_add_left 1 _, Nat.le_add_left 1 _⟩

/-- Two lines of a program, `x = [1;` and `f(]g`. In the first a bracket is missing, and in the
second, which fits nothing, a bracket stands that does not fit either. -/
theorem refused_for_first_problem_brackets :
    let at0 := fun column => (⟨column, 0, column⟩ : Position)
    let at1 := fun column => (⟨column + 8, 1, column⟩ : Position)
    let leaf := fun (kind : String) (named : Bool) (start stop : Position) =>
      ({ kind, named, start, stop } : Tree)
    let node := fun (kind : String) (isError : Bool) (start stop : Position)
        (children : List Tree) =>
      ({ kind, named := true, isError, hasError := true, start, stop, children } : Tree)
    let bracket : Tree :=
      { kind := "]", named := false, isMissing := true, hasError := true, start := at0 6,
        stop := at0 6 }
    let array := node "array" false (at0 4) (at0 6)
      [leaf "[" false (at0 4) (at0 5), leaf "number" true (at0 5) (at0 6), bracket]
    let assignment := node "assignment_expression" false (at0 0) (at0 6)
      [leaf "identifier" true (at0 0) (at0 1), leaf "=" false (at0 2) (at0 3), array]
    let statement := node "expression_statement" false (at0 0) (at0 7)
      [assignment, leaf ";" false (at0 6) (at0 7)]
    let inner := node "ERROR" true (at1 2) (at1 3) [leaf "]" false (at1 2) (at1 3)]
    let outer := node "ERROR" true (at1 0) (at1 4)
      [leaf "identifier" true (at1 0) (at1 1), leaf "(" false (at1 1) (at1 2), inner,
        leaf "identifier" true (at1 3) (at1 4)]
    let t := node "program" false (at0 0) (at1 4) [statement, outer]
    let read := fun tolerant => (ofTree tolerant .javaScript "src\\a.js" "x = [1;\nf(]g" t).value
    t.Marked ∧ t.search = ⟨3, some ⟨1, 7, "missing `]`"⟩⟩ ∧
      (∃ parsed, read true = .ok parsed ∧ parsed.errorCount = 3) ∧
      read false = .error (.malformed "src/a.js" 1 7 "missing `]`") := by
  intro at0 at1 leaf node bracket array assignment statement inner outer t read
  have hmarked : t.Marked := by
    unfold Tree.Marked
    decide
  obtain ⟨hsearch, -, hall⟩ := refused_for_first_problem t hmarked
  obtain ⟨-, parsed, hparsed, -, hcount, hrefused, hfirst, -⟩ :=
    hall .javaScript "src\\a.js" "x = [1;\nf(]g"
  obtain ⟨e, he⟩ := hrefused.2 (by rw [hcount]; decide)
  obtain ⟨n, line, column, hn, rfl, rfl, rfl, -⟩ := hfirst e he
  have hn' : t.wrongNodes.head? = some bracket := rfl
  cases hn.symm.trans hn'
  have hpath : Path.slashed "src\\a.js" = "src/a.js" := by
    rw [Path.slashed, ← String.toList_inj, String.toList_map]
    decide
  rw [hpath] at he
  exact ⟨hmarked, hsearch, ⟨parsed, hparsed, hcount⟩, he⟩

end Source

end CodeGraph
