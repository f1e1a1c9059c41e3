import CodeGraph.Proofs.Graph.Retries
import CodeGraph.Proofs.Graph.Statements
import CodeGraph.Proofs.Json.RoundTrip

/-! # Totals that a database tells

A database is asked for its totals by one statement for each kind of nodes and links, and its
results are read in the same order. Each total is what the result at the place of its own statement
says, however many results there are and whatever they hold (`DatabaseResponse.reports_nodes`,
`DatabaseResponse.reports_links`). A database that counts rightly (`PropertyGraph.Answers`) then
tells the totals that the same graph has in memory (`totals_told_as_counted`). -/

namespace CodeGraph

/-! ## Totals by kind -/

namespace GraphCounts

variable {c d : GraphCounts}

/-- The number of nodes of a kind. -/
def nodes (c : GraphCounts) : NodeLabel → Nat
  | .file => c.files
  | .function => c.functions
  | .classType => c.classes

/-- The number of links of a kind. -/
def links (c : GraphCounts) : Relation → Nat
  | .definedIn => c.definedIn
  | .imports => c.imports
  | .calls => c.calls
  | .usedIn => c.usedIn
  | .inherits => c.inherits

/-- There is nothing else in totals than the numbers for each kind. -/
theorem eq_of_kinds (hnodes : ∀ label, c.nodes label = d.nodes label)
    (hlinks : ∀ relation, c.links relation = d.links relation) : c = d := by
  obtain ⟨files, functions, classes, definedIn, imports, calls, usedIn, inherits⟩ := c
  rw [GraphCounts.mk.injEq]
  exact ⟨hnodes .file, hnodes .function, hnodes .classType, hlinks .definedIn, hlinks .imports,
    hlinks .calls, hlinks .usedIn, hlinks .inherits⟩

/-- Reading `nodes` after `setNodes label`: the new number at `label`, the old ones elsewhere. -/
theorem nodes_setNodes (c : GraphCounts) (label : NodeLabel) (n : Nat) (label' : NodeLabel) :
    (c.setNodes label n).nodes label' = if label' = label then n else c.nodes label' := by
  cases label <;> cases label' <;> rfl

/-- Reading `links` after `setLinks relation`: the new number at `relation`, the old ones
elsewhere. -/
theorem links_setLinks (c : GraphCounts) (relation : Relation) (n : Nat) (relation' : Relation) :
    (c.setLinks relation n).links relation'
      = if relation' = relation then n else c.links relation' := by
  cases relation <;> cases relation' <;> rfl

/-- `setNodes` leaves the numbers of links alone. -/
theorem links_setNodes (c : GraphCounts) (label : NodeLabel) (n : Nat)
    (relation : Relation) : (c.setNodes label n).links relation = c.links relation := by
  cases label <;> cases relation <;> rfl

/-- `setLinks` leaves the numbers of nodes alone. -/
theorem nodes_setLinks (c : GraphCounts) (relation : Relation) (n : Nat)
    (label : NodeLabel) : (c.setLinks relation n).nodes label = c.nodes label := by
  cases relation <;> cases label <;> rfl

/-- A total that no step changes is the same in the end. -/
theorem foldl_unchanged {α κ : Type} {get : GraphCounts → κ → Nat} {k : κ}
    {step : GraphCounts → α → GraphCounts} (hstep : ∀ c a, get (step c a) k = get c k)
    (xs : List α) (c : GraphCounts) : get (xs.foldl step c) k = get c k := by
  induction xs generalizing c with
  | nil => rfl
  | cons x xs ih => rw [List.foldl_cons, ih, hstep]

/-- Setting any numbers of nodes leaves the numbers of links alone, by induction on the settings. -/
theorem links_foldl_setNodes (ps : List (NodeLabel × Nat)) (c : GraphCounts)
    (relation : Relation) :
    (ps.foldl (fun c p => c.setNodes p.1 p.2) c).links relation = c.links relation :=
  foldl_unchanged (fun c p => c.links_setNodes p.1 p.2 relation) ps c

/-- Setting any numbers of links leaves the numbers of nodes alone, by induction on the settings. -/
theorem nodes_foldl_setLinks (ps : List (Relation × Nat)) (c : GraphCounts) (label : NodeLabel) :
    (ps.foldl (fun c p => c.setLinks p.1 p.2) c).nodes label = c.nodes label :=
  foldl_unchanged (fun c p => c.nodes_setLinks p.1 p.2 label) ps c

section Setting

variable {κ : Type} [DecidableEq κ] {set : GraphCounts → κ → Nat → GraphCounts}
  {get : GraphCounts → κ → Nat}
  (hset : ∀ c k n k', get (set c k n) k' = if k' = k then n else get c k')
include hset

/-- Values that are set for other kinds change nothing. -/
theorem get_foldl_of_not_mem {kinds : List κ} {k : κ} (hk : k ∉ kinds) (values : List Nat)
    (c : GraphCounts) :
    get ((kinds.zip values).foldl (fun c p => set c p.1 p.2) c) k = get c k := by
  induction kinds generalizing values c with
  | nil => rfl
  | cons k' kinds ih =>
    rw [List.mem_cons, not_or] at hk
    cases values with
    | nil => rfl
    | cons n values =>
      rw [List.zip_cons_cons, List.foldl_cons, ih hk.2, hset, if_neg hk.1]

/-- **Each value goes to its own kind**: of values that are set for different kinds one after the
other, a kind gets the value at its place, if there is one. -/
theorem get_foldl {kinds : List κ} (hnodup : kinds.Nodup) {i : Nat} {k : κ}
    (hk : kinds[i]? = some k) (values : List Nat) (c : GraphCounts) :
    get ((kinds.zip values).foldl (fun c p => set c p.1 p.2) c) k = values[i]?.getD (get c k) := by
  induction kinds generalizing i values c with
  | nil => simp at hk
  | cons k' kinds ih =>
    rw [List.nodup_cons] at hnodup
    cases values with
    | nil => rfl
    | cons n values =>
      rw [List.zip_cons_cons, List.foldl_cons]
      cases i with
      | zero =>
        -- the first kind is not set again
        cases hk
        rw [get_foldl_of_not_mem hset hnodup.1, hset, if_pos rfl]
        rfl
      | succ i =>
        rw [List.getElem?_cons_succ] at hk
        have hne : k ≠ k' := by
          rintro rfl
          exact hnodup.1 (List.mem_of_getElem? hk)
        rw [ih hnodup.2 hk, hset, if_neg hne, List.getElem?_cons_succ]

end Setting

end GraphCounts

namespace Store

variable (s : Store)

/-- `Store.counts` reports for each label what `labelCount` counts. -/
theorem nodes_counts (label : NodeLabel) : s.counts.nodes label = s.labelCount label := by
  cases label <;> rfl

/-- `Store.counts` reports for each relation what `relationCount` counts. -/
theorem links_counts (relation : Relation) :
    s.counts.links relation = s.relationCount relation := by
  cases relation <;> rfl

end Store

/-! ## Results -/

/-- `asNat?` takes the whole numbers that fit in 64 bits and nothing else. -/
theorem Json.asNat?_eq_some_iff {j : Json} {n : Nat} :
    j.asNat? = some n ↔ n < wordSize ∧ j = .nat n := by
  constructor
  · intro h
    cases j with
    | number number =>
      cases number with
      | whole m =>
        rw [asNat?] at h
        split at h
        · next hm =>
          rw [Bool.and_eq_true, decide_eq_true_eq, decide_eq_true_eq] at hm
          cases h
          refine ⟨by omega, ?_⟩
          rw [nat, Int.toNat_of_nonneg hm.1]
        · cases h
      | decimal text => cases h
    | _ => cases h
  · rintro ⟨hn, rfl⟩
    exact asNat?_nat hn

namespace DatabaseResponse

/-- The first cell of the first row of the result at a place. -/
def cellAt? (results : List StatementResult) (i : Nat) : Option Json :=
  results[i]?.bind fun result => result.rows.head?.bind List.head?

/-- **A total is what the result at a place reports**: the number of 64 bits in its first cell, or
zero if there is no such number. -/
def Reports (results : List StatementResult) (i total : Nat) : Prop :=
  (total < Json.wordSize ∧ cellAt? results i = some (.nat total)) ∨
    (total = 0 ∧ ∀ n < Json.wordSize, cellAt? results i ≠ some (.nat n))

/-- `firstNumber` is the number in the first cell of the first row, and zero where there is none. -/
theorem firstNumber_eq (result : StatementResult) :
    firstNumber result = ((result.rows.head?.bind List.head?).bind Json.asNat?).getD 0 := by
  rw [firstNumber]
  split
  · next cell cells rows hrows => rw [hrows]; rfl
  · next hnone =>
    cases hrows : result.rows with
    | nil => rfl
    | cons cells rows =>
      cases cells with
      | nil => rfl
      | cons cell cells => exact absurd hrows (hnone cell cells rows)

/-- The number that is read at a place is what is reported there. -/
theorem reports_firstNumber (results : List StatementResult) (i : Nat) :
    Reports results i ((results.map firstNumber)[i]?.getD 0) := by
  have hvalue : (results.map firstNumber)[i]?.getD 0
      = ((cellAt? results i).bind Json.asNat?).getD 0 := by
    rw [List.getElem?_map, cellAt?]
    cases results[i]? with
    | none => rfl
    | some result => exact firstNumber_eq result
  rw [hvalue]
  cases hnumber : (cellAt? results i).bind Json.asNat? with
  | some n =>
    obtain ⟨cell, hcell, hn⟩ := Option.bind_eq_some_iff.1 hnumber
    obtain ⟨hlt, rfl⟩ := Json.asNat?_eq_some_iff.1 hn
    exact .inl ⟨hlt, hcell⟩
  | none =>
    refine .inr ⟨rfl, fun n hn hcell => ?_⟩
    rw [hcell, Option.bind_some, Json.asNat?_eq_some_iff.2 ⟨hn, rfl⟩] at hnumber
    cases hnumber

/-- Nothing but one number is reported at a place. -/
theorem Reports.unique {results : List StatementResult} {i total n : Nat}
    (h : Reports results i total) (hn : n < Json.wordSize)
    (hcell : cellAt? results i = some (.nat n)) : total = n := by
  rcases h with ⟨-, htotal⟩ | ⟨-, hnone⟩
  · cases hcell.symm.trans htotal
    rfl
  · exact absurd hcell (hnone n hn)

variable (results : List StatementResult)

/-- **The total of a kind of nodes** is what is reported at the place of its statement. -/
theorem reports_nodes {i : Nat} {label : NodeLabel}
    (hi : Statement.counts[i]? = some { clauses := [.countNodes label] }) :
    Reports results i ((totals results).nodes label) := by
  have hlabel : NodeLabel.all[i]? = some label := by
    rw [Statement.counts, List.getElem?_append] at hi
    split at hi
    · rw [List.getElem?_map, Option.map_eq_some_iff] at hi
      obtain ⟨label', hlabel', heq⟩ := hi
      cases heq
      exact hlabel'
    · rw [List.getElem?_map, Option.map_eq_some_iff] at hi
      obtain ⟨relation, -, heq⟩ := hi
      cases heq
  have htotal : (totals results).nodes label = (results.map firstNumber)[i]?.getD 0 := by
    rw [totals, GraphCounts.nodes_foldl_setLinks,
      GraphCounts.get_foldl GraphCounts.nodes_setNodes (by decide) hlabel]
    cases label <;> rfl
  rw [htotal]
  exact reports_firstNumber results i

/-- **The total of a kind of links** is what is reported at the place of its statement. -/
theorem reports_links {i : Nat} {relation : Relation}
    (hi : Statement.counts[i]? = some { clauses := [.countLinks relation] }) :
    Reports results i ((totals results).links relation) := by
  -- the statements that count links stand after those that count nodes
  obtain ⟨j, rfl, hrelation⟩ : ∃ j, i = NodeLabel.all.length + j ∧
      Relation.all[j]? = some relation := by
    rw [Statement.counts, List.getElem?_append] at hi
    split at hi
    · rw [List.getElem?_map, Option.map_eq_some_iff] at hi
      obtain ⟨label, -, heq⟩ := hi
      cases heq
    · next hle =>
      rw [List.getElem?_map, Option.map_eq_some_iff] at hi
      obtain ⟨relation', hrelation', heq⟩ := hi
      cases heq
      rw [List.length_map] at hle hrelation'
      exact ⟨i - NodeLabel.all.length, by omega, hrelation'⟩
  have htotal : (totals results).links relation
      = (results.map firstNumber)[NodeLabel.all.length + j]?.getD 0 := by
    rw [totals, GraphCounts.get_foldl GraphCounts.links_setLinks (by decide) hrelation,
      GraphCounts.links_foldl_setNodes, List.getElem?_drop]
    cases relation <;> rfl
  rw [htotal]
  exact reports_firstNumber results _

end DatabaseResponse

namespace Remote

variable {r : Remote} {fates : Nat → Exchange} {sent : List RemoteRequest}
  {results : List StatementResult}

/-- **Results are received**: after lost requests, no more of them than there are retries, one is
answered with the results. -/
def Receives (r : Remote) (fates : Nat → Exchange) (sent : List RemoteRequest)
    (results : List StatementResult) : Prop :=
  r.address.isSome ∧ ∃ k ≤ r.config.maxRetries,
    (∀ i < k, ∃ cause, fates (sent.length + i) = .lost cause) ∧
    ∃ status body, fates (sent.length + k) = .answered status body ∧ 200 ≤ status ∧ status < 300 ∧
      DatabaseResponse.parse? body = some ⟨results, []⟩

/-- What is received in the end is what `Remote.commit` returns, however many requests got lost. -/
theorem Receives.value_commit (h : r.Receives fates sent results) (statements : List Statement) :
    (r.commit (.scripted fates) statements sent).value.1 = .ok results := by
  obtain ⟨hurl, k, hk, hlost, status, body, hanswered, hlow, hhigh, hparse⟩ := h
  obtain ⟨url, hurl⟩ := Option.isSome_iff_exists.1 hurl
  have htransient : ∀ i < k, IsTransient (r.hear url (fates (sent.length + i))) := fun i hi =>
    (isTransient_hear_iff r url _).2 (.inl (hlost i hi))
  have hsettled : ¬ IsTransient (r.hear url (fates (sent.length + k))) := by
    rw [hanswered]
    exact not_isTransient_answered r url status body
  have hrefused : ¬ (status == 401 || status == 403) = true := by
    simp only [Bool.or_eq_true, beq_iff_eq]
    omega
  have hfailed : ¬ (decide (status < 200) || decide (300 ≤ status)) = true := by
    simp only [Bool.or_eq_true, decide_eq_true_eq]
    omega
  rw [commit, value_commitFrom_of_settled hurl statements hk htransient hsettled, hanswered, hear,
    readAnswer, if_neg hrefused, if_neg hfailed, hparse]

end Remote

/-! ## Counting -/

namespace Clause

/-- Reads a statement that counts. -/
def readCount? (text : String) : Option Clause :=
  match words [] text.toList with
  | ["MATCH", "(", var, ":", label, ")", "RETURN", "count", "(", counted, ")"] =>
    if var = counted then (NodeLabel.ofName? label).map countNodes else none
  | ["MATCH", "(", ")", "-", "[", var, ":", relation, "]", "-", ">", "(", ")", "RETURN", "count",
      "(", counted, ")"] =>
    if var = counted then (Relation.ofName? relation).map countLinks else none
  | _ => none

/-- The text of the query that counts nodes is read back as that query. -/
theorem readCount?_countNodes (label : NodeLabel) :
    readCount? (countNodes label).text = some (countNodes label) := by
  cases label <;> decide

/-- The text of the query that counts links is read back as that query. -/
theorem readCount?_countLinks (relation : Relation) :
    readCount? (countLinks relation).text = some (countLinks relation) := by
  cases relation <;> decide

end Clause

namespace PropertyGraph

/-- The number of nodes of a kind. -/
def countNodes (g : PropertyGraph) (label : NodeLabel) : Nat :=
  (g.nodes.filter (·.label == label)).length

/-- The number of links of a kind. -/
def countLinks (g : PropertyGraph) (relation : Relation) : Nat :=
  (g.links.filter (·.relation == relation)).length

/-- The number that a statement asks for, if its text asks for one. -/
def count? (g : PropertyGraph) (statement : Statement) : Option Nat :=
  match Clause.readCount? statement.text with
  | some (.countNodes label) => some (g.countNodes label)
  | some (.countLinks relation) => some (g.countLinks relation)
  | _ => none

/-- **A result answers a statement**: the first cell of its first row is the number that the
statement asks for, which has no more than 64 bits. -/
def Answers (g : PropertyGraph) (statement : Statement) (result : StatementResult) : Prop :=
  ∃ n cells rows, g.count? statement = some n ∧ n < Json.wordSize ∧
    result.rows = (.nat n :: cells) :: rows

/-- `count?` answers the query that counts nodes with the number of nodes of that label. -/
theorem count?_countNodes (g : PropertyGraph) (label : NodeLabel) :
    g.count? { clauses := [.countNodes label] } = some (g.countNodes label) := by
  have htext : Statement.text { clauses := [.countNodes label] } = (Clause.countNodes label).text :=
    String.intercalate_singleton
  rw [count?, htext, Clause.readCount?_countNodes]

/-- `count?` answers the query that counts links with the number of links of that relation. -/
theorem count?_countLinks (g : PropertyGraph) (relation : Relation) :
    g.count? { clauses := [.countLinks relation] } = some (g.countLinks relation) := by
  have htext : Statement.text { clauses := [.countLinks relation] }
      = (Clause.countLinks relation).text := String.intercalate_singleton
  rw [count?, htext, Clause.readCount?_countLinks]

/-- The totals that are asked for, in order. -/
theorem map_count?_counts (g : PropertyGraph) :
    Statement.counts.map g.count?
      = (NodeLabel.all.map g.countNodes ++ Relation.all.map g.countLinks).map some := by
  simp [Statement.counts, count?_countNodes, count?_countLinks, Function.comp_def]

/-- A result that answers a statement reports the number that is asked for. -/
theorem Answers.cellAt? {g : PropertyGraph} {statements : List Statement}
    {results : List StatementResult} (h : List.Forall₂ g.Answers statements results) {i : Nat}
    {statement : Statement} (hi : statements[i]? = some statement) :
    ∃ n, g.count? statement = some n ∧ n < Json.wordSize ∧
      DatabaseResponse.cellAt? results i = some (.nat n) := by
  induction h generalizing i with
  | nil => simp at hi
  | @cons _ result _ _ hanswers _ ih =>
    cases i with
    | zero =>
      cases hi
      obtain ⟨n, cells, rows, hcount, hn, hrows⟩ := hanswers
      refine ⟨n, hcount, hn, ?_⟩
      rw [DatabaseResponse.cellAt?, List.getElem?_cons_zero, Option.bind_some, hrows]
      rfl
    | succ i => exact ih hi

end PropertyGraph

/-- There is a counting query among `Statement.counts` for each label. -/
theorem Statement.countNodes_mem_counts (label : NodeLabel) :
    ({ clauses := [.countNodes label] } : Statement) ∈ counts := by
  have hlabel : label ∈ NodeLabel.all := by cases label <;> decide
  exact List.mem_append_left _ (List.mem_map.2 ⟨label, hlabel, rfl⟩)

/-- There is a counting query among `Statement.counts` for each relation. -/
theorem Statement.countLinks_mem_counts (relation : Relation) :
    ({ clauses := [.countLinks relation] } : Statement) ∈ counts := by
  have hrelation : relation ∈ Relation.all := by cases relation <;> decide
  exact List.mem_append_right _ (List.mem_map.2 ⟨relation, hrelation, rfl⟩)

namespace Store

/-- The property graph of a store has as many nodes of a label as the store. -/
theorem countNodes_toGraph (s : Store) (label : NodeLabel) :
    s.toGraph.countNodes label = s.labelCount label := by
  rw [labelCount_eq, PropertyGraph.countNodes, toGraph, List.filter_map, List.length_map]
  rfl

/-- The property graph of a store has as many links of a relation as the store. -/
theorem countLinks_toGraph (s : Store) (relation : Relation) :
    s.toGraph.countLinks relation = s.relationCount relation :=
  (s.relationCount_eq relation).symm

/-- **Right answers give the totals in memory.** -/
theorem totals_eq_counts {s : Store} {results : List StatementResult}
    (h : List.Forall₂ s.toGraph.Answers Statement.counts results) :
    DatabaseResponse.totals results = s.counts := by
  refine GraphCounts.eq_of_kinds (fun label => ?_) fun relation => ?_
  · obtain ⟨i, hi⟩ := List.mem_iff_getElem?.1 (Statement.countNodes_mem_counts label)
    obtain ⟨n, hcount, hn, hcell⟩ := PropertyGraph.Answers.cellAt? h hi
    rw [PropertyGraph.count?_countNodes, countNodes_toGraph, Option.some.injEq] at hcount
    rw [(DatabaseResponse.reports_nodes results hi).unique hn hcell, nodes_counts, hcount]
  · obtain ⟨i, hi⟩ := List.mem_iff_getElem?.1 (Statement.countLinks_mem_counts relation)
    obtain ⟨n, hcount, hn, hcell⟩ := PropertyGraph.Answers.cellAt? h hi
    rw [PropertyGraph.count?_countLinks, countLinks_toGraph, Option.some.injEq] at hcount
    rw [(DatabaseResponse.reports_links results hi).unique hn hcell, links_counts, hcount]

end Store

/-- **Totals are told as they are counted.** Each kind of nodes and links has a statement that asks
for its total, and the total is what is reported at the place of that statement, whatever the
results are. They are what a database tells if its results are accepted, as all are that are
received. So a database whose graph was built by statements of upserts and that answers each
statement tells the totals of the same upserts in memory. -/
theorem totals_told_as_counted :
    (∀ label, { clauses := [.countNodes label] } ∈ Statement.counts) ∧
    (∀ relation, { clauses := [.countLinks relation] } ∈ Statement.counts) ∧
    (∀ (results : List StatementResult) (i : Nat),
      (∀ label, Statement.counts[i]? = some { clauses := [.countNodes label] } →
        DatabaseResponse.Reports results i ((DatabaseResponse.totals results).nodes label)) ∧
      ∀ relation, Statement.counts[i]? = some { clauses := [.countLinks relation] } →
        DatabaseResponse.Reports results i ((DatabaseResponse.totals results).links relation)) ∧
    (∀ (r : Remote) (fates : Nat → Exchange) (sent : List RemoteRequest)
      (results : List StatementResult), r.Receives fates sent results →
        (r.commit (.scripted fates) Statement.counts sent).value.1 = .ok results) ∧
    ∀ {τ : Type} (r : Remote) (transport : Transport τ) (s : τ) (results : List StatementResult),
      (r.commit transport Statement.counts s).value.1 = .ok results →
      (r.counts transport s).value.1 = .ok (DatabaseResponse.totals results) ∧
      ∀ ops : List Upsert, ∃ g, Statement.runAll (ops.map Statement.ofUpsert) {} = some g ∧
        (List.Forall₂ g.Answers Statement.counts results →
          (r.counts transport s).value.1 = .ok (Store.empty.mergeAll ops).counts) := by
  refine ⟨Statement.countNodes_mem_counts, Statement.countLinks_mem_counts,
    fun results i => ⟨fun label => DatabaseResponse.reports_nodes results,
      fun relation => DatabaseResponse.reports_links results⟩,
    fun r fates sent results h => h.value_commit Statement.counts,
    fun r transport s results hresults => ?_⟩
  have htold : (r.counts transport s).value.1 = .ok (DatabaseResponse.totals results) := by
    rw [Remote.value_counts, hresults]
    rfl
  refine ⟨htold, fun ops => ⟨_, Statement.runAll_ofUpsert ops {}, fun h => ?_⟩⟩
  rw [htold]
  refine congrArg Except.ok (Store.totals_eq_counts ?_)
  -- the database that carried the upserts out has the graph of the store that merged them
  rw [← Store.toGraph_mergeAll Store.consistent_empty]
  exact h

/-- A database in which a function calls another and one is used in a second file, and whose answer
comes after a request that is lost; and results of which the first has no rows, the second gives a
text and the third is the last. -/
theorem totals_told_as_counted_calls :
    let ops : List Upsert := [.file "a.py" "a", .call "f" "g" "a.py", .use "g" "b.py"]
    let url := "http://localhost:7474/db/neo4j/tx/commit"
    let r : Remote := ⟨{}, url, some url⟩
    let result (n : Nat) : Json :=
      .object [("data", .array [.object [("row", .array [.nat n])]])]
    let answer : Json := .object [("results", .array ([2, 3, 0, 0, 0, 1, 1, 0].map result))]
    let fates : List Exchange := [.lost .broken, .answered 200 answer.compact]
    let short : List StatementResult := [⟨[]⟩, ⟨[[.string "2"]]⟩, ⟨[[.nat 4, .nat 5]]⟩]
    (r.counts (.scripted (fates.getD · (.lost .broken))) []).value.1
        = .ok (Store.empty.mergeAll ops).counts ∧
      (Store.empty.mergeAll ops).counts
        = { files := 2, functions := 3, calls := 1, usedIn := 1 } ∧
      DatabaseResponse.Reports short 2 (DatabaseResponse.totals short).classes := by
  intro ops url r result answer fates short
  have hsmall : ∀ n ∈ [2, 3, 0, 0, 0, 1, 1, 0], n < Json.wordSize := by decide
  have hreadable : Json.Readable Json.Reading.maxDepth answer := by
    have hresult : ∀ n ∈ [2, 3, 0, 0, 0, 1, 1, 0], Json.Readable 125 (result n) := fun n hn =>
      .object (by simpa using .array (by simpa using .object (by
        simpa using .array (by simpa using Json.Readable.nat 121 (hsmall n hn)))))
    exact .object (by simpa using Json.readable_map hresult)
  have hparse : DatabaseResponse.parse? answer.compact
      = some ⟨[2, 3, 0, 0, 0, 1, 1, 0].map fun n => ⟨[[.nat n]]⟩, []⟩ := by
    rw [DatabaseResponse.parse?, hreadable.parse?_compact]
    rfl
  have hreceives : r.Receives (fates.getD · (.lost .broken)) []
      ([2, 3, 0, 0, 0, 1, 1, 0].map fun n => ⟨[[.nat n]]⟩) := by
    refine ⟨rfl, 1, by decide, fun i hi => ?_, 200, _, rfl, by decide, by decide,
      hparse⟩
    obtain rfl : i = 0 := by omega
    exact ⟨_, rfl⟩
  have hcounted : (Store.empty.mergeAll ops).counts
      = { files := 2, functions := 3, calls := 1, usedIn := 1 } := by
    refine GraphCounts.eq_of_kinds (fun label => ?_) fun relation => ?_
    · rw [Store.nodes_counts, ← Store.countNodes_toGraph,
        ← Store.toGraph_mergeAll Store.consistent_empty]
      cases label <;> rfl
    · rw [Store.links_counts, ← Store.countLinks_toGraph,
        ← Store.toGraph_mergeAll Store.consistent_empty]
      cases relation <;> rfl
  obtain ⟨-, -, hreports, hcommit, htold⟩ := totals_told_as_counted
  obtain ⟨-, hmemory⟩ := htold r _ [] _ (hcommit r _ [] _ hreceives)
  obtain ⟨g, hrun, hcounts⟩ := hmemory ops
  refine ⟨hcounts ?_, hcounted, (hreports short 2).1 .classType rfl⟩
  rw [Statement.runAll_ofUpsert, Option.some.injEq] at hrun
  have hcount : Statement.counts.map g.count? = [2, 3, 0, 0, 0, 1, 1, 0].map some := by
    rw [PropertyGraph.map_count?_counts, ← hrun]
    rfl
  -- the same numbers stand in the results, each in the place of its statement
  rw [← List.forall₂_eq_eq_eq, List.forall₂_map_left_iff, List.forall₂_map_right_iff,
    List.forall₂_iff_zip] at hcount
  rw [List.forall₂_map_right_iff, List.forall₂_iff_zip]
  exact ⟨hcount.1, fun hmem =>
    ⟨_, [], [], hcount.2 hmem, hsmall _ (List.of_mem_zip hmem).2, rfl⟩⟩

end CodeGraph
