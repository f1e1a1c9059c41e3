import CodeGraph.Grammar.TokenOverlap
import CodeGraph.Parsing.Collection

/-! # Merging of parse states

States with the same items that differ only in the tokens that follow them can mostly be one state.
States are merged unless they treat some token differently, or a token of one of them would be
looked for in the other together with tokens that it overlaps. A state that only reduces without a
trace in the tree is passed by. -/

namespace CodeGraph.Parsing

open CodeGraph.Grammar

/-- What the tokens of a grammar are to each other and to the states. -/
structure TokenTraits where
  overlap : Array (Array Overlap)
  /-- For each token, the tokens beside which it occurs in some state. -/
  beside : Array TokenSet
  /-- For each token, the tokens beside which it is not to be added to a state. -/
  barred : Array TokenSet
  /-- Tokens that are never added to a state. -/
  fixed : TokenSet
  /-- Tokens looked for while unexpected text is skipped. -/
  recovering : TokenSet
  deriving Inhabited

namespace TokenTraits

/-- How the first token meets the second. -/
def overlapOf (overlap : Array (Array Overlap)) (i j : Nat) : Overlap :=
  (overlap.getD i #[]).getD j {}

/-- The tokens that occur together with each token in some row. -/
def neighbours (l : Basis) (rows : Array Row) : Array TokenSet :=
  let sets := (rows.foldl (fun (m : Std.HashMap Nat Unit) r => m.insert r.tokens ()) {}).keys
  sets.foldl (fun (acc : Array TokenSet) set =>
    (TokenSet.toList set).foldl (fun acc t => acc.modify t (· ||| set)) acc)
    (Array.replicate l.tokenCount 0)

/-- The tokens looked for while unexpected text is skipped. A token is left out if it clashes with
one that clashes with nothing itself; tokens that occur together in some state do not count as
clashing, and words are never left out. -/
def recoveringSet (l : Basis) (overlap : Array (Array Overlap)) (beside : Array TokenSet) : TokenSet :=
  let lexical := (List.range l.tokenCount).filter fun i => (l.grammar.tokens.getD i none).isSome
  let meets (i j : Nat) : Bool := !(beside.getD i 0).testBit j
  let free := lexical.filter fun i => !lexical.any fun j =>
    let o := overlapOf overlap i j
    j != i && meets i j && (o.follows || o.blank) && !(overlapOf overlap j i).blank
  let freeSet := TokenSet.ofList free
  let kept := lexical.filter fun i =>
    freeSet.testBit i || l.keywordSet.testBit i || i == l.grammar.word ||
      !free.any fun j => meets i j && (overlapOf overlap i j).clashes
  TokenSet.ofList kept ||| l.scannedSet ||| l.extraSet ||| 1

/-- The traits of the tokens of a grammar. -/
def ofCollection (l : Basis) (c : Collection) : TokenTraits :=
  let overlap := overlaps l.grammar l.table l.tokens
  let beside := neighbours l (c.rows.drop 1)
  let lexical := (List.range l.tokenCount).filter fun i => (l.grammar.tokens.getD i none).isSome
  let word := l.grammar.word
  let barred := (Array.range l.tokenCount).map fun i =>
    TokenSet.ofList (lexical.filter fun j =>
      !(j == word && l.keywordSet.testBit i) && !(i == word && l.keywordSet.testBit j) &&
        (overlapOf overlap i j).clashes)
  { overlap, beside, barred, fixed := l.externalSet
    recovering := recoveringSet l overlap beside }

/-- Whether no token of `new` is barred beside the tokens of `old`. -/
def admits (t : TokenTraits) (new old : TokenSet) : Bool := Id.run do
  if new == 0 then return true
  if new &&& t.fixed != 0 then return false
  return (TokenSet.toList new).all fun i => t.barred.getD i 0 &&& old == 0

end TokenTraits

/-! ## Groups of states -/

/-- A partition of the states into groups. -/
structure Partition where
  groups : Array (Array Nat)
  groupOf : Array Nat
  /-- When the group of each state last changed. -/
  moved : Array Nat
  /-- When each group was last looked at. -/
  checked : Array Nat
  /-- Number of changes so far. -/
  time : Nat
  deriving Inhabited

namespace Partition

/-- The states by their items. -/
def byCore (c : Collection) : Partition :=
  let groups := c.rows.zipIdx.foldl (fun (g : Array (Array Nat)) (r, i) =>
    g.modify r.core (·.push i)) (Array.replicate c.cores.size #[])
  { groups, groupOf := c.rows.map (·.core), moved := Array.replicate c.rows.size 0
    checked := Array.replicate groups.size 0, time := 0 }

/-- Whether the members with common keys of two lists, which are in order of their keys, are
alike. -/
@[specialize]
def agree {α : Type} (key : α → Nat) (alike : α → α → Bool) : List α → List α → Bool
  | [], _ | _, [] => true
  | xs@(x :: xs'), ys@(y :: ys') =>
    if key x < key y then agree key alike xs' ys
    else if key y < key x then agree key alike xs ys'
    else alike x y && agree key alike xs' ys'
termination_by xs ys => xs.length + ys.length
decreasing_by all_goals (simp_all <;> omega)

/-- Whether two states are the same or in the same group. -/
def together (p : Partition) (s t : Nat) : Bool := s == t || p.groupOf.getD s 0 == p.groupOf.getD t 0

/-- Whether two states treat a token differently, or have tokens that the other does not admit. -/
def conflict (c : Collection) (traits : TokenTraits) (p : Partition) (i j : Nat) : Bool :=
  let a := c.rows.getD i default
  let b := c.rows.getD j default
  let common := a.tokens &&& b.tokens
  let left := a.tokens ^^^ common
  let right := b.tokens ^^^ common
  (left ||| right) &&& traits.fixed != 0 ||
    !agree Entry.token (fun e f => e.form == f.form && p.together e.target f.target) a.entries b.entries ||
    !traits.admits left b.tokens || !traits.admits right a.tokens

/-- What `conflict` looks at in a state: states with one key are alike. -/
def entryKey (c : Collection) (p : Partition) (i : Nat) : Array Nat :=
  let r := c.rows.getD i default
  r.entries.foldl (fun (k : Array Nat) e =>
    (k.push e.form).push (if e.target == 0 then 0 else p.groupOf.getD e.target 0 + 1)) #[r.tokens]

/-- Whether two states go on to different groups after some symbol. -/
def diverge (c : Collection) (p : Partition) (i j : Nat) : Bool :=
  let a := c.rows.getD i default
  let b := c.rows.getD j default
  !agree Entry.token (fun e f => e.target == 0 || f.target == 0 || p.together e.target f.target)
      a.entries b.entries ||
    !agree Prod.fst (fun g h => p.together g.2 h.2) a.gotos b.gotos

/-- What `diverge` looks at in a state: states with one key are alike. -/
def successorKey (c : Collection) (p : Partition) (i : Nat) : Array Nat :=
  let r := c.rows.getD i default
  let shifts := r.entries.foldl (fun (k : Array Nat) e =>
    if e.target == 0 then k else (k.push e.token).push (p.groupOf.getD e.target 0)) #[]
  r.gotos.foldl (fun k (x, s) => (k.push x).push (p.groupOf.getD s 0)) shifts

/-- Whether some state after a state of the group has changed its group since the group was last
looked at. -/
def isStale (c : Collection) (p : Partition) (g : Nat) : Bool :=
  let last := p.checked.getD g 0
  let fresh (s : Nat) : Bool := p.moved.getD s 0 > last
  (p.groups.getD g #[]).any fun i =>
    let r := c.rows.getD i default
    r.entries.any (fun e => e.target != 0 && fresh e.target) || r.gotos.any fun (_, s) => fresh s

/-- The states of a group that differ from an earlier one that stays; only one state of each key is
compared. -/
def outsiders (key : Nat → Array Nat) (differ : Nat → Nat → Bool) (states : Array Nat) :
    Array Bool := Id.run do
  let mut kinds : Std.HashMap (Array Nat) Nat := {}
  let mut kindOf : Array Nat := #[]
  let mut samples : Array Nat := #[]
  for s in states do
    let k := key s
    match kinds[k]? with
    | some x => kindOf := kindOf.push x
    | none =>
      kinds := kinds.insert k samples.size
      kindOf := kindOf.push samples.size
      samples := samples.push s
  let mut out : Array Bool := Array.replicate samples.size false
  for x in [0:samples.size] do
    if out.getD x false then continue
    for y in [x + 1:samples.size] do
      if !out.getD y false && differ (samples.getD x 0) (samples.getD y 0) then out := out.set! y true
  let found := out
  return kindOf.map fun x => found.getD x false

/-- Looks at every group in turn, those that arise included, and makes the states that differ from
the others a group of their own. Says whether anything changed. -/
def split (c : Collection) (key : Partition → Nat → Array Nat)
    (differ : Partition → Nat → Nat → Bool) (onlyStale : Bool) (start : Partition) : Partition × Bool := Id.run do
  let mut p := start
  let mut changed := false
  for g in [0:c.rows.size] do
    if g ≥ p.groups.size then break
    let states := p.groups.getD g #[]
    if states.size ≤ 1 || (onlyStale && !isStale c p g) then continue
    let now := p
    let out := outsiders (key now) (differ now) states
    p := { p with checked := p.checked.set! g p.time }
    if out.any id then
      changed := true
      let leaving := (states.zip out).filterMap fun (s, o) => if o then some s else none
      let staying := (states.zip out).filterMap fun (s, o) => if o then none else some s
      let new := p.groups.size
      let time := p.time + 1
      p := {
        groups := (p.groups.set! g staying).push leaving
        groupOf := leaving.foldl (fun a s => a.set! s new) p.groupOf
        moved := leaving.foldl (fun a s => a.set! s time) p.moved
        checked := p.checked.push 0
        time }
  return (p, changed)

/-- The states that can be one. -/
def ofCollection (c : Collection) (traits : TokenTraits) : Partition := Id.run do
  let (p, _) := split c (entryKey c) (conflict c traits) false (byCore c)
  let mut p := { p with
    checked := Array.replicate p.groups.size 0
    moved := Array.replicate c.rows.size 1
    time := max p.time 1 }
  for _ in [0:c.rows.size] do
    let (p', changed) := split c (successorKey c) (diverge c) true p
    p := p'
    if !changed then break
  return p

end Partition

/-! ## The merged states -/

/-- One row for each group. -/
def mergedRows (c : Collection) (p : Partition) : Array Row :=
  let groupOf (s : Nat) : Nat := p.groupOf.getD s 0
  p.groups.map fun states =>
    let merged := states.foldl (fun (acc : Row) i =>
      let r := c.rows.getD i default
      { core := r.core
        tokens := acc.tokens ||| r.tokens
        entries := if r.tokens &&& acc.tokens == r.tokens then acc.entries
          else unionBy (·.token) acc.entries r.entries
        gotos := unionBy (·.1) acc.gotos r.gotos }) default
    { merged with
      entries := merged.entries.map fun e => if e.target == 0 then e else { e with target := groupOf e.target }
      gotos := merged.gotos.map fun (x, s) => (x, groupOf s) }

/-- Rules that are given another name somewhere. -/
def renamedSymbols (g : Productions) : Std.HashMap Nat Unit :=
  g.nonterminals.foldl (fun m v => v.productions.foldl (fun m p => p.steps.foldl (fun m s =>
    if s.rename.isSome then m.insert s.symbol () else m) m) m) {}

/-- The rule to which a state reduces on every token, if the tree keeps no trace of that. -/
def soleReduction (l : Basis) (forms : Array Form) (renamed : Std.HashMap Nat Unit) (r : Row) :
    Option Nat :=
  let traceless (i : Nat) : Bool :=
    let it := l.item i
    let info := l.grammar.symbols.getD it.lhs default
    it.consumed == 1 && it.weight == 0 && it.names.all Option.isNone && it.fields.all Option.isNone
      && it.handed.all List.isEmpty && !info.visible && !l.grammar.supertypes.getD it.lhs false
      && !renamed.contains it.lhs
  let step (acc : Option (Option Nat)) (e : Entry) : Option (Option Nat) :=
    let f := forms.getD e.form default
    if f.shift || f.accept then none
    else f.reduces.foldl (fun acc i =>
      match acc with
      | none => none
      | some none => if traceless i then some (some (l.item i).lhs) else none
      | some (some s) => if traceless i && (l.item i).lhs == s then acc else none) acc
  (r.entries.foldl step (some none)).join

/-- Leads every way into a state that only reduces without a trace to the state after the
reduction. -/
def passUnits (l : Basis) (forms : Array Form) (rows : Array Row) : Array Row :=
  let renamed := renamedSymbols l.grammar
  let units := rows.map (soleReduction l forms renamed)
  rows.map fun r => Id.run do
    let mut r := r
    for _ in [0:16] do
      let gotos := r.gotos
      let redirect (s : Nat) : Nat :=
        match units.getD s none with
        | some u => ((gotos.find? (·.1 == u)).map (·.2)).getD s
        | none => s
      let affected := r.entries.any (fun e => e.target != 0 && (units.getD e.target none).isSome)
        || r.gotos.any fun (_, s) => (units.getD s none).isSome
      if !affected then break
      r := { r with
        entries := r.entries.map fun e => if e.target == 0 then e else { e with target := redirect e.target }
        gotos := r.gotos.map fun (x, s) => (x, redirect s) }
    return r

/-- Drops the states to which nothing leads and puts those with many entries first, after the first
two states. -/
def arranged (rows : Array Row) : Array Row :=
  let used := rows.foldl (fun (u : Array Bool) r =>
    let u := r.entries.foldl (fun u e => if e.target == 0 then u else u.set! e.target true) u
    r.gotos.foldl (fun u (_, s) => u.set! s true) u)
    (((Array.replicate rows.size false).set! 0 true).set! 1 true)
  let size (i : Nat) : Nat := (rows.getD i default).entries.length + (rows.getD i default).gotos.length
  let rest := ((List.range rows.size).filter fun i => i > 1 && used.getD i false).mergeSort
    fun i j => size i ≥ size j
  let order := (0 :: 1 :: rest).toArray
  let place := order.zipIdx.foldl (fun (a : Array Nat) (old, new) => a.set! old new)
    (Array.replicate rows.size 0)
  order.map fun i =>
    let r := rows.getD i default
    { r with
      entries := r.entries.map fun e => { e with target := place.getD e.target 0 }
      gotos := r.gotos.map fun (x, s) => (x, place.getD s 0) }

end CodeGraph.Parsing
