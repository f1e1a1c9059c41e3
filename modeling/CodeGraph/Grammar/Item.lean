import CodeGraph.Grammar.Production

/-! # Items

An item is a production of which the first symbols have been read. Items that agree in all that
can matter later are one: the rule, the number of symbols read with their names and fields, the
precedence in force and the symbols still to come; the symbols read matter only if one of them hands
fields to the node above it. Beside the items stand the tables from which parse states are built:
which tokens can begin or end a symbol, and which rules can begin a rule. -/

namespace CodeGraph.Grammar

/-- What tells items apart. -/
structure ItemKey where
  lhs : Nat
  /-- Names and fields of the symbols read, last first. -/
  past : List (Option (String × Bool) × Option String)
  /-- The symbols read, last first, once one of them hands fields to the node above it. -/
  givers : Option (List Nat)
  prec : Precedence
  assoc : Option Assoc
  weight : Int
  future : List Step
  deriving BEq, Hashable, Inhabited

/-- A production partly read. -/
structure Item where
  /-- Symbol of the rule; `0` for the whole text followed by its end. -/
  lhs : Nat
  consumed : Nat
  weight : Int
  /-- Precedence and associativity after the last symbol read. -/
  prec : Precedence
  assoc : Option Assoc
  next : Option Nat
  /-- The item after `next`. -/
  advanced : Nat
  /-- The items that stand for this one, if `next` is an inlined rule. -/
  inlined : Array Nat
  names : Array (Option (String × Bool))
  fields : Array (Option String)
  /-- For each symbol read, the fields that it hands to the node. -/
  handed : Array (List String)
  future : List Step
  deriving Inhabited

/-- A rule that can begin another one: the tokens that can follow it there, and whether what
follows the other rule can follow it too. -/
structure Corner where
  symbol : Nat
  following : Nat
  atEnd : Bool
  deriving Inhabited

/-- Items and the tables over symbols. -/
structure ItemTable where
  items : Array Item
  /-- Tokens that can begin a symbol, as a bit set. -/
  first : Array Nat
  /-- Tokens that can end a symbol, as a bit set. -/
  last : Array Nat
  /-- The rules that can begin a rule, itself included, by symbol. -/
  corners : Array (Array Corner)
  /-- For each rule, the symbols that begin it and the items after them. -/
  beginnings : Array (Array (Nat × Nat))
  /-- The whole text, before anything is read. -/
  start : Nat
  /-- The item of an empty text, if the grammar allows one. -/
  empty : Option Nat
  deriving Inhabited

namespace ItemTable

/-- Replaces an inlined first step by the productions of its rule, as long as there is one. The
name and field of the step pass to all the steps put in its place, its precedence to the last. -/
def inlineFirst (g : Productions) : Nat → List Step → Int → List (List Step × Int)
  | 0, steps, w => [(steps, w)]
  | _, [], w => [([], w)]
  | fuel + 1, s :: rest, w =>
    if g.inlined.getD s.symbol false then
      let v := g.nonterminals.getD (s.symbol - g.tokenCount) default
      v.productions.flatMap fun p =>
        let n := p.steps.length
        let inserted := p.steps.zipIdx.map fun (t, i) =>
          let t := { t with
            rename := if s.rename.isSome then s.rename else t.rename
            field := if s.field.isSome then s.field else t.field }
          if i + 1 == n then
            { t with
              prec := if t.prec == .none then s.prec else t.prec
              assoc := if t.assoc.isNone then s.assoc else t.assoc }
          else t
        let w := if p.weight.natAbs > w.natAbs then p.weight else w
        inlineFirst g fuel (inserted ++ rest) w
    else [(s :: rest, w)]

/-- Keys seen so far and their numbers; beside each key, the symbols read when it was first seen,
last first. -/
structure Interned where
  keys : Array (ItemKey × List Nat) := #[]
  ids : Std.HashMap ItemKey Nat := {}

/-- The number of a key. -/
def Interned.id (t : Interned) (k : ItemKey) (seen : List Nat) : Nat × Interned :=
  match t.ids[k]? with
  | some i => (i, t)
  | none => (t.keys.size, ⟨t.keys.push (k, seen), t.ids.insert k t.keys.size⟩)

/-- The items of a grammar, reached from the start of each production. -/
def makeItems (g : Productions) (interned : Interned) : Array Item × Interned := Id.run do
  let mut table := interned
  let mut items : Array Item := #[]
  for i in [0:10000000] do
    match table.keys[i]? with
    | none => break
    | some (k, seen) =>
      let consumed := k.past.length
      let base : Item := {
        lhs := k.lhs, consumed, weight := k.weight, prec := k.prec, assoc := k.assoc
        next := none, advanced := 0, inlined := #[]
        names := (k.past.map (·.1)).reverse.toArray
        fields := (k.past.map (·.2)).reverse.toArray
        handed := match k.givers with
          | some gs => (gs.map fun x => g.handed.getD x []).reverse.toArray
          | none => #[]
        future := k.future }
      match k.future with
      | [] => items := items.push base
      | s :: rest =>
        if g.inlined.getD s.symbol false then
          let mut ids : Array Nat := #[]
          for (steps, w) in inlineFirst g 8 k.future k.weight do
            let (id, table') := table.id { k with future := steps, weight := w } seen
            table := table'
            ids := ids.push id
          items := items.push { base with next := some s.symbol, inlined := ids }
        else
          let seen := s.symbol :: seen
          let gives := k.givers.isSome || !(g.handed.getD s.symbol []).isEmpty
          let key : ItemKey :=
            ⟨k.lhs, (s.rename, s.field) :: k.past, if gives then some seen else none, s.prec, s.assoc,
             k.weight, rest⟩
          let (id, table') := table.id key seen
          table := table'
          items := items.push { base with next := some s.symbol, advanced := id }
  return (items, table)

/-- The tokens reached from each symbol through one chosen step of each production. -/
def edgeSets (g : Productions) (edge : List Step → Option Step) : Array Nat := Id.run do
  let n := g.tokenCount
  let mut sets : Array Nat := (Array.range g.symbols.size).map fun s => if s < n then 1 <<< s else 0
  for _ in [0:g.symbols.size] do
    let mut changed := false
    for (v, i) in g.nonterminals.zipIdx do
      let old := sets.getD (n + i) 0
      let new := v.productions.foldl (fun acc p =>
        match edge p.steps with
        | some s => acc ||| sets.getD s.symbol 0
        | none => acc) old
      if new != old then
        sets := sets.set! (n + i) new
        changed := true
    if !changed then break
  return sets

/-- The rules that begin the productions of a rule: with the tokens that can follow them there, and
whether they can be a whole production. -/
def directCorners (g : Productions) (first : Array Nat) (v : Nonterminal) : Array Corner :=
  v.productions.foldl (fun (acc : Array Corner) p =>
    match p.steps with
    | s :: rest =>
      if s.symbol < g.tokenCount then acc
      else
        let (following, atEnd) := match rest with
          | t :: _ => (first.getD t.symbol 0, false)
          | [] => (0, true)
        match acc.findIdx? (·.symbol == s.symbol) with
        | some i => acc.modify i fun c => { c with following := c.following ||| following, atEnd := c.atEnd || atEnd }
        | none => acc.push ⟨s.symbol, following, atEnd⟩
    | [] => acc) #[]

/-- Every rule that can begin the rule `symbol`. -/
def cornersOf (g : Productions) (direct : Array (Array Corner)) (symbol : Nat) : Array Corner := Id.run do
  let n := g.tokenCount
  let mut found : Array (Option Corner) := Array.replicate g.nonterminals.size none
  let mut pending : List Corner := [⟨symbol, 0, true⟩]
  for _ in [0:10000000] do
    match pending with
    | [] => break
    | c :: rest =>
      pending := rest
      let i := c.symbol - n
      let (merged, changed) := match found.getD i none with
        | none => (c, true)
        | some old =>
          let m : Corner := ⟨c.symbol, old.following ||| c.following, old.atEnd || c.atEnd⟩
          (m, m.following != old.following || m.atEnd != old.atEnd)
      if changed then
        found := found.set! i (some merged)
        for d in direct.getD i #[] do
          let following := d.following ||| (if d.atEnd then merged.following else 0)
          pending := ⟨d.symbol, following, d.atEnd && merged.atEnd⟩ :: pending
  return found.filterMap id

/-- The items and tables of a grammar. -/
def ofProductions (g : Productions) : ItemTable := Id.run do
  let n := g.tokenCount
  let mut table : Interned := {}
  let whole : ItemKey := ⟨0, [], none, .none, none, 0, [{ symbol := g.start }]⟩
  let (start, table') := table.id whole []
  table := table'
  -- one item at the start of each production
  let mut heads : Array (Array Nat) := #[]
  let mut empty : Option Nat := none
  for (v, i) in g.nonterminals.zipIdx do
    let mut ids : Array Nat := #[]
    for p in v.productions do
      let (id, table') := table.id ⟨n + i, [], none, .none, none, p.weight, p.steps⟩ []
      table := table'
      if p.steps.isEmpty then empty := some id else ids := ids.push id
    heads := heads.push ids
  let (items, _) := makeItems g table
  let first := edgeSets g List.head?
  let last := edgeSets g List.getLast?
  let direct := g.nonterminals.map (directCorners g first)
  let corners := (Array.range g.nonterminals.size).map fun i => cornersOf g direct (n + i)
  let beginnings := heads.zipIdx.map fun (ids, i) =>
    if g.inlined.getD (n + i) false then #[]
    else ids.foldl (fun (acc : Array (Nat × Nat)) id =>
      let it := items.getD id default
      let expanded := if it.inlined.isEmpty then #[id] else it.inlined
      expanded.foldl (fun acc e =>
        let it := items.getD e default
        match it.next with
        | some x => if acc.contains (x, it.advanced) then acc else acc.push (x, it.advanced)
        | none => acc) acc) #[]
  return { items, first, last, corners, beginnings, start, empty }

end ItemTable

end CodeGraph.Grammar
