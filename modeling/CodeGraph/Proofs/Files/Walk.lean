import CodeGraph.Files.Walk

/-! # A walk is a loop over places

A walk lists directories as it reaches them. While the files do not change, it might as well list
all places first and then visit one after the other: `Locator.places` are these places, and a walk
is the loop `Locator.visitEach` over them (`value_visitAll`), which a visit can end early.

What each visit keeps is kept by a walk even if the files change on the way (`visitAll_keeps`). -/

namespace CodeGraph.Locator

variable {σ : Type} (l : Locator) (t : FileTree)

/-! ## Places -/

/-- The places of the files among the entries of a directory, with `below` for its directories. -/
def placesIn (below : IgnoreRules → List String → List (List String)) (rules : IgnoreRules)
    (dir : List String) : List (String × Entry) → List (List String)
  | [] => []
  | (name, e) :: rest =>
    let place := dir ++ [name]
    (if l.skips rules place name e.isDir then []
      else match e with
        | .dir _ => below rules place
        | .file _ => if l.wants name then [place] else []
        | .link _ => []) ++ placesIn below rules dir rest

/-- The places of the files below a directory. -/
def placesBelow : (depth : Nat) → IgnoreRules → List String → List (List String)
  | 0, _, _ => []
  | depth + 1, rules, dir =>
    match t.entry (FileTree.absolute dir) with
    | .ok (.dir children) =>
      placesIn l (placesBelow depth) (l.enter t rules dir) dir (sorted children)
    | _ => []

/-- The places of all files that a walk visits. -/
def places : List (List String) :=
  placesBelow l t (t.root.height + 1) (l.outerRules t) l.root

/-! ## Visits one after the other -/

variable (visit : List String → σ → Logged (Progress σ))

/-- Visits places one after the other, until a visit ends the walk. -/
def visitEach : List (List String) → σ → Progress σ
  | [], s => .going s
  | place :: places, s => match (visit place s).value with
    | .going s => visitEach places s
    | .ended s => .ended s

/-- More places are visited if the visits so far have not ended the walk. -/
theorem visitEach_append (ps qs : List (List String)) (s : σ) :
    visitEach visit (ps ++ qs) s = match visitEach visit ps s with
      | .going s => visitEach visit qs s
      | .ended s => .ended s := by
  induction ps generalizing s with
  | nil => rfl
  | cons p ps ih =>
    rw [List.cons_append, visitEach, visitEach]
    cases (visit p s).value with
    | going s => exact ih s
    | ended s => rfl

/-- Visiting one place is one visit. -/
theorem visitEach_singleton (place : List String) (s : σ) :
    visitEach visit [place] s = (visit place s).value := by
  rw [visitEach]
  cases (visit place s).value <;> rfl

variable {l t visit}

/-- The entries of a directory are visited in the order of `placesIn`, if its directories are. -/
theorem value_visitEntries {descend : IgnoreRules → List String → σ → Logged (Progress σ)}
    {below : IgnoreRules → List String → List (List String)}
    (h : ∀ rules dir s, (descend rules dir s).value = visitEach visit (below rules dir) s)
    (rules : IgnoreRules) (dir : List String) (entries : List (String × Entry)) (s : σ) :
    (visitEntries l visit descend rules dir entries s).value
      = visitEach visit (placesIn l below rules dir entries) s := by
  induction entries generalizing s with
  | nil => rfl
  | cons entry rest ih =>
    obtain ⟨name, e⟩ := entry
    simp only [visitEntries, placesIn, visitEach_append]
    split
    · exact ih s
    · -- a visit that ends the walk ends it here, also if it was made further down
      cases e with
      | dir children =>
        rw [Logged.value_bind, h]
        cases visitEach visit (below rules (dir ++ [name])) s with
        | going s => exact ih s
        | ended s => rfl
      | file bytes =>
        by_cases hwants : l.wants name
        · simp only [hwants, if_true]
          rw [Logged.value_bind, visitEach_singleton]
          cases (visit (dir ++ [name]) s).value with
          | going s => exact ih s
          | ended s => rfl
        · simp only [hwants]
          exact ih s
      | link target => exact ih s

section Still

variable {tree : σ → FileTree} (htree : ∀ s, tree s = t)
include htree

/-- The files below a directory are visited in the order of `placesBelow`. -/
theorem value_visitDir (depth : Nat) (rules : IgnoreRules) (dir : List String) (s : σ) :
    (visitDir l tree visit depth rules dir s).value
      = visitEach visit (placesBelow l t depth rules dir) s := by
  induction depth generalizing rules dir s with
  | zero => rfl
  | succ depth ih =>
    simp only [visitDir, placesBelow, htree]
    cases t.entry (FileTree.absolute dir) with
    | error e => rfl
    | ok e =>
      cases e with
      | dir children => exact value_visitEntries ih _ _ _ s
      | file bytes => rfl
      | link target => rfl

/-- **A walk is a loop**: while the files do not change, a walk visits its places one after the
other. -/
theorem value_visitAll (s : σ) :
    (visitAll l tree visit s).value = visitEach visit (places l t) s := by
  rw [places, ← value_visitDir htree]
  simp only [visitAll, htree]
  split <;> rfl

end Still

/-- Visits that collect places leave them in reverse. -/
theorem state_visitEach_collect (ps found : List (List String)) :
    (visitEach (fun place s => pure (.going (place :: s))) ps found).state
      = ps.reverse ++ found := by
  induction ps generalizing found with
  | nil => rfl
  | cons p ps ih =>
    rw [visitEach, List.reverse_cons, List.append_assoc]
    exact ih (p :: found)

/-- The places are those that a walk finds. -/
theorem value_files (l : Locator) (t : FileTree) : (l.files t).value = l.places t := by
  rw [files, Logged.value_bind, value_visitAll (fun _ => rfl), Logged.value_pure,
    state_visitEach_collect, List.append_nil, List.reverse_reverse]

/-! ## What all visits keep -/

section Keeps

variable {tree : σ → FileTree} {P : σ → Prop}
  (hvisit : ∀ place s, P s → P (visit place s).value.state)
include hvisit

/-- **One directory keeps an invariant** of the visits, if all directories inside it do. -/
theorem visitEntries_keeps {descend : IgnoreRules → List String → σ → Logged (Progress σ)}
    (hdescend : ∀ rules dir s, P s → P (descend rules dir s).value.state) (rules : IgnoreRules)
    (dir : List String) (entries : List (String × Entry)) {s : σ} (h : P s) :
    P (visitEntries l visit descend rules dir entries s).value.state := by
  induction entries generalizing s with
  | nil => exact h
  | cons entry rest ih =>
    obtain ⟨name, e⟩ := entry
    -- the rest is visited from the state that the first entry leaves
    have hrest : ∀ next : Progress σ, P next.state →
        P (match next with
          | .going s => visitEntries l visit descend rules dir rest s
          | .ended s => (return .ended s : Logged (Progress σ))).value.state := by
      intro next hnext
      cases next with
      | going s => exact ih hnext
      | ended s => exact hnext
    simp only [visitEntries]
    split
    · exact hrest (.going s) h
    · cases e with
      | dir children => exact hrest _ (hdescend _ _ _ h)
      | link target => exact hrest (.going s) h
      | file bytes =>
        dsimp only
        split
        · exact hrest _ (hvisit _ _ h)
        · exact hrest (.going s) h

/-- **A walk keeps an invariant** of the visits, by induction on the depth. -/
theorem visitDir_keeps (depth : Nat) (rules : IgnoreRules) (dir : List String) {s : σ} (h : P s) :
    P (visitDir l tree visit depth rules dir s).value.state := by
  induction depth generalizing rules dir s with
  | zero => exact h
  | succ depth ih =>
    rw [visitDir]
    split
    · exact visitEntries_keeps hvisit (fun rules dir s => ih rules dir) _ _ _ h
    · exact h
    · exact h

/-- **A walk keeps what each visit keeps**, whatever happens to the files on the way. -/
theorem visitAll_keeps {s : σ} (h : P s) : P (visitAll l tree visit s).value.state := by
  simp only [visitAll]
  split <;> exact visitDir_keeps hvisit _ _ _ h

end Keeps

end CodeGraph.Locator
