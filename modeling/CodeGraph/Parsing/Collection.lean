import CodeGraph.Parsing.Basis

/-! # The collection of parse states

All states of the bottom-up parser of a grammar. A state is a set of items, each with the tokens
that may follow its production; two states with the same items and tokens are one. Where a state
could both shift and reduce, or reduce in two ways, precedence and associativity decide, and what
they leave open stays open. -/

namespace CodeGraph.Parsing

open CodeGraph.Grammar

/-- Items with the tokens that may follow them. -/
abbrev Kernel := Array (Nat × Nat)

/-- What a state does with a token, without the state to which a shift leads. -/
structure Form where
  /-- The reductions, in order. -/
  reduces : Array Nat := #[]
  /-- The token is shifted. -/
  shift : Bool := false
  /-- The shift only prolongs a repetition that is also reduced. -/
  repetition : Bool := false
  /-- The token is taken as one that may stand anywhere. -/
  extra : Bool := false
  /-- The text is complete. -/
  accept : Bool := false
  deriving BEq, Hashable, Inhabited

/-- An entry of a state: a token, the number of a form, and the state after a shift. -/
structure Entry where
  token : Nat
  form : Nat
  target : Nat
  deriving Inhabited

/-- A state as a row of the parse table. -/
structure Row where
  /-- Number of the set of items, apart from the tokens that follow them. -/
  core : Nat
  /-- The tokens with an entry. -/
  tokens : TokenSet
  /-- Entries by increasing token. -/
  entries : List Entry
  /-- The state after each rule, by increasing rule. -/
  gotos : List (Nat × Nat)
  deriving Inhabited

/-! ## Reductions -/

/-- What a reduction does: items that agree in it reduce alike. -/
structure ReductionKey where
  lhs : Nat
  consumed : Nat
  weight : Int
  names : List (Option (String × Bool))
  fields : List (Option String)
  handed : List (List String)
  deriving BEq, Hashable

/-- Drops what is empty from the end of a list. -/
def dropTrailing {α : Type} (empty : α → Bool) (xs : List α) : List α :=
  (xs.reverse.dropWhile empty).reverse

/-- What the reduction of a complete item does. -/
def ReductionKey.ofItem (it : Item) : ReductionKey :=
  { lhs := it.lhs, consumed := it.consumed, weight := it.weight
    names := dropTrailing Option.isNone it.names.toList
    fields := dropTrailing Option.isNone it.fields.toList
    handed := dropTrailing List.isEmpty it.handed.toList }

/-- The first item that reduces like each complete item, by item. -/
def representatives (l : Basis) : Array Nat :=
  (l.table.items.zipIdx.foldl (fun (acc : Array Nat × Std.HashMap ReductionKey Nat) (it, i) =>
    if it.next.isSome then (acc.1.push i, acc.2)
    else
      let key := ReductionKey.ofItem it
      match acc.2[key]? with
      | some j => (acc.1.push j, acc.2)
      | none => (acc.1.push i, acc.2.insert key i)) (#[], {})).1

/-! ## Precedence -/

/-- Compares optional values, the missing one first. -/
def compareOption {α : Type} (cmp : α → α → Ordering) : Option α → Option α → Ordering
  | none, none => .eq
  | none, some _ => .lt
  | some _, none => .gt
  | some a, some b => cmp a b

/-- Compares lists by their first difference. -/
def compareLists {α : Type} (cmp : α → α → Ordering) : List α → List α → Ordering
  | [], [] => .eq
  | [], _ :: _ => .lt
  | _ :: _, [] => .gt
  | a :: as, b :: bs => (cmp a b).then (compareLists cmp as bs)

/-- Order of precedences as values. -/
def comparePrecedence : Precedence → Precedence → Ordering
  | .none, .none => .eq
  | .none, _ => .lt
  | _, .none => .gt
  | .level a, .level b => compare a b
  | .level _, .named _ => .lt
  | .named _, .level _ => .gt
  | .named a, .named b => compare a b

/-- Order of associativities as values. -/
def compareAssoc : Assoc → Assoc → Ordering
  | .left, .left | .right, .right => .eq
  | .left, .right => .lt
  | .right, .left => .gt

/-- Order in which a state performs its reductions. -/
def reductionOrder (a b : Item) : Ordering :=
  (compare a.consumed b.consumed).then <| (compare a.lhs b.lhs).then <|
  (compare a.weight b.weight).then <| (comparePrecedence a.prec b.prec).then <|
  (compareOption compareAssoc a.assoc b.assoc).then <|
  compareLists (fun x y => (compareOption (fun (m : String × Bool) n =>
      (compare m.1 n.1).then (compare m.2.toNat n.2.toNat)) x.1 y.1).then
    (compareOption compare x.2 y.2))
    (a.names.zip a.fields).toList (b.names.zip b.fields).toList

namespace Basis

/-- Compares two precedences; rules may stand in the orders for themselves. -/
def comparePrec (l : Basis) (p : Precedence) (ps : List Nat) (q : Precedence) (qs : List Nat) :
    Ordering :=
  let byOrder : Ordering :=
    let nameOf (i : Nat) := (l.grammar.nonterminals.getD (i - l.tokenCount) default).name
    let fits (r : Rank) (p : Precedence) (ss : List Nat) : Bool :=
      match r with
      | .level s => p == .named s
      | .rule s => ss.any fun i => i ≥ l.tokenCount && nameOf i == s
    let inOrder (order : List Rank) : Option Ordering :=
      (order.foldl (fun (acc : (Bool × Bool) × Option Ordering) r =>
        match acc with
        | (seen, some o) => (seen, some o)
        | ((left, right), none) =>
          if fits r p ps then ((true, right), if right then some .lt else none)
          else if fits r q qs then ((left, true), if left then some .gt else none)
          else ((left, right), none)) ((false, false), none)).2
    (l.grammar.orders.findSome? inOrder).getD .eq
  match p, q with
  | .level a, .level b => if a ≠ 0 ∨ b ≠ 0 then compare a b else byOrder
  | .level a, .none => if a ≠ 0 then compare a 0 else byOrder
  | .none, .level b => if b ≠ 0 then compare 0 b else byOrder
  | _, _ => byOrder

end Basis

/-! ## Building the states -/

/-- The states built so far. -/
structure Collection where
  rows : Array Row := #[]
  kernels : Array Kernel := #[]
  ids : Std.HashMap Kernel Nat := {}
  cores : Std.HashMap (Array Nat) Nat := {}
  forms : Array Form := #[]
  formIds : Std.HashMap Form Nat := {}
  /-- Precedences that have been compared: of an item with a reduction of some rules. -/
  compared : Std.HashMap (Nat × Nat × List Nat) Ordering := {}
  deriving Inhabited

/-- Steps that add to the collection. -/
abbrev Collecting := StateM Collection

namespace Collecting

/-- The number of a form. -/
def form (f : Form) : Collecting Nat := do
  match (← get).formIds[f]? with
  | some i => return i
  | none => modifyGet fun c =>
      let i := c.forms.size
      (i, { c with forms := c.forms.push f, formIds := c.formIds.insert f i })

/-- The number of the state with this kernel. -/
def state (kernel : Kernel) : Collecting Nat := do
  match (← get).ids[kernel]? with
  | some i => return i
  | none => modifyGet fun c =>
      let i := c.kernels.size
      (i, { c with kernels := c.kernels.push kernel, ids := c.ids.insert kernel i })

/-- The number of the items of a kernel. -/
def core (kernel : Kernel) : Collecting Nat := do
  let items := kernel.map (·.1)
  match (← get).cores[items]? with
  | some i => return i
  | none => modifyGet fun c => (c.cores.size, { c with cores := c.cores.insert items c.cores.size })

/-- Reductions on a token, weaker ones dropped, with what is needed to weigh them against a
shift. -/
structure Reductions where
  items : Array Nat := #[]
  lhs : List Nat := []
  left : Bool := false
  right : Bool := false
  neither : Bool := false

/-- Compares an item with reductions; these have the precedence of the last of them. -/
def compareReductions (l : Basis) (i : Nat) (r : Reductions) : Collecting Ordering := do
  let last := r.items.back?.getD 0
  let key := (i, last, r.lhs)
  match (← get).compared[key]? with
  | some o => return o
  | none =>
    let it := l.item i
    let o := l.comparePrec it.prec [it.lhs] (l.item last).prec r.lhs
    modify fun c => { c with compared := c.compared.insert key o }
    return o

/-- Adds one complete item. -/
def addReduction (l : Basis) (r : Reductions) (i : Nat) : Collecting Reductions := do
  let it := l.item i
  let note (r : Reductions) : Reductions :=
    { items := r.items.push i
      lhs := if r.lhs.contains it.lhs then r.lhs else it.lhs :: r.lhs
      left := r.left || it.assoc == some .left
      right := r.right || it.assoc == some .right
      neither := r.neither || it.assoc == none }
  if r.items.isEmpty then return note r
  else match ← compareReductions l i r with
    | .gt => return note {}
    | .eq => return note r
    | .lt => return r

/-- What is done with a token on which the given items can be reduced. The tokens on which each of
the items in `shifting` goes on are given with it, and `shift` says whether one does. -/
def resolve (l : Basis) (represents : Array Nat) (complete : Array Nat)
    (shifting : Array (Nat × Nat)) (shift : Bool) (token : Nat) : Collecting Form := do
  let accept := complete.any fun i => (l.item i).lhs == 0
  let own := complete.filter fun i => (l.item i).lhs != 0
  let mut reds : Reductions := {}
  for i in own do
    reds ← addReduction l reds i
  let reduces := reds.items.map fun i => represents.getD i i
  if !shift then return { reduces, accept }
  if reduces.isEmpty then return { shift := true, accept }
  let rivals := shifting.filter fun (_, first) => first.testBit token
  let owners := (rivals.map fun (i, _) => (l.item i).lhs).toList ++ (own.map fun i => (l.item i).lhs).toList
  let v := owners.headD 0
  let auxiliary := v ≥ l.tokenCount && (l.grammar.nonterminals.getD (v - l.tokenCount) default).auxiliary
  if auxiliary && owners.all (· == v) then return { reduces, shift := true, repetition := true }
  let mut more := false
  let mut less := false
  for (i, _) in rivals do
    match ← compareReductions l i reds with
    | .gt => more := true
    | .lt => less := true
    | .eq => pure ()
  if more && !less then return { shift := true }
  if less && !more then return { reduces }
  if !less && !more then
    if reds.left && !reds.right && !reds.neither then return { reduces }
    if reds.right && !reds.left && !reds.neither then return { shift := true }
  return { reduces, shift := true }

/-- The items of a kernel, inlined rules replaced. -/
def expand (l : Basis) (kernel : Kernel) : Kernel :=
  kernel.foldl (fun (acc : Kernel) (i, la) =>
    let it := l.item i
    if it.inlined.isEmpty then acc.push (i, la) else it.inlined.foldl (fun acc j => acc.push (j, la)) acc) #[]

/-- For each rule that can begin in a state, the tokens that may follow it. -/
def activeRules (l : Basis) (items : Kernel) : Array (Option Nat) := Id.run do
  let n := l.tokenCount
  let mut rules : Array (Option Nat) := Array.replicate l.grammar.nonterminals.size none
  for (i, la) in items do
    let it := l.item i
    match it.next with
    | none => pure ()
    | some x =>
      if x ≥ n then
        let following := match (l.item it.advanced).next with
          | some y => l.first y
          | none => la
        for c in l.table.corners.getD (x - n) #[] do
          let new := c.following ||| (if c.atEnd then following else 0)
          rules := rules.modify (c.symbol - n) fun old => some (match old with
            | some o => o ||| new
            | none => new)
  return rules

/-- Brings items in order and joins the tokens that may follow one item. -/
def normalize (found : List (Nat × Nat)) : Kernel :=
  match found with
  | [] => #[]
  | [one] => #[one]
  | _ =>
    (found.toArray.qsort fun a b => a.1 < b.1).foldl (fun (acc : Kernel) (i, la) =>
      match acc.back? with
      | some (j, lb) => if i == j then acc.pop.push (i, la ||| lb) else acc.push (i, la)
      | none => acc.push (i, la)) #[]

/-- The items after each symbol, by symbol. -/
def successors (l : Basis) (items : Kernel) (rules : Array (Option Nat)) :
    Array (List (Nat × Nat)) := Id.run do
  let mut found : Array (List (Nat × Nat)) := Array.replicate l.grammar.symbols.size []
  for (i, la) in items do
    let it := l.item i
    match it.next with
    | some x => found := found.modify x ((it.advanced, la) :: ·)
    | none => pure ()
  for v in [0:rules.size] do
    match rules.getD v none with
    | none => pure ()
    | some la =>
      for (x, i) in l.table.beginnings.getD v #[] do
        found := found.modify x ((i, la) :: ·)
  return found

/-- Fills in the row of a state, adding the states that it leads to. -/
def fill (l : Basis) (represents : Array Nat) (kernel : Kernel) : Collecting Unit := do
  let n := l.tokenCount
  let items := expand l kernel
  let rules := activeRules l items
  let core ← core kernel
  let mut shifts := 0
  let mut reducible := 0
  let mut complete : Array (Nat × Nat) := #[]
  let mut shifting : Array (Nat × Nat) := #[]
  for (i, la) in items do
    let it := l.item i
    match it.next with
    | none =>
      complete := complete.push (i, la)
      reducible := reducible ||| la
    | some x =>
      let first := l.first x
      shifts := shifts ||| first
      if it.consumed > 0 then shifting := shifting.push (i, first)
  -- the states after each symbol
  let found := successors l items rules
  let mut targets : Array Nat := Array.replicate n 0
  let mut gotos : Array (Nat × Nat) := #[]
  for x in l.grammar.succession.filter fun x => !(found.getD x []).isEmpty do
    let t ← state (normalize (found.getD x []))
    if x < n then targets := targets.set! x t else gotos := gotos.push (x, t)
  -- the entries
  let ordered := if complete.size ≤ 1 then complete
    else complete.qsort fun a b => reductionOrder (l.item a.1) (l.item b.1) == .lt
  let shiftForm ← form { shift := true }
  let extraForm ← form { extra := true }
  let single ← match ordered.toList with
    | [(i, _)] => form (← resolve l represents #[i] #[] false 0)
    | _ => pure 0
  let contested := if ordered.size ≤ 1 then reducible &&& shifts else reducible
  let mut settled : Array Entry := #[]
  for t in TokenSet.toList contested do
    let here := ordered.filterMap fun (i, la) => if la.testBit t then some i else none
    let f ← resolve l represents here shifting (shifts.testBit t) t
    settled := settled.push ⟨t, ← form f, if f.shift then targets.getD t 0 else 0⟩
  let reduced := (TokenSet.toList (TokenSet.minus reducible contested)).map fun t => ⟨t, single, 0⟩
  let next := targets
  let shifted := (TokenSet.toList shifts).map fun t => ⟨t, shiftForm, next.getD t 0⟩
  let extras := (TokenSet.toList l.extraSet).map fun t => ⟨t, extraForm, 0⟩
  let entries := [reduced, shifted, extras].foldl (unionBy Entry.token) settled.toList
  let tokens := shifts ||| reducible ||| l.extraSet
  modify fun c => { c with rows := c.rows.push { core, tokens, entries, gotos := gotos.toList } }

end Collecting

/-- All states of a grammar. The first one, which has no items, is the state in which unexpected
text is skipped, and the second one is the state before the text. -/
def Collection.ofBasis (l : Basis) : Collection :=
  let represents := representatives l
  let start : Kernel := match l.table.empty with
    | some e => #[(l.table.start, 1), (e, 1)]
    | none => #[(l.table.start, 1)]
  let collect : Collecting Unit := do
    let _ ← Collecting.state #[]
    let _ ← Collecting.state start
    for i in [0:10000000] do
      match (← get).kernels[i]? with
      | none => break
      | some kernel => Collecting.fill l represents kernel
  (collect.run {}).2

end CodeGraph.Parsing
