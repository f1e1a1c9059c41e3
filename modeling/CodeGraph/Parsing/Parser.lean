import CodeGraph.Parsing.Lexer

/-! # The parser

A bottom-up parser that follows every reading of an ambiguous text at once. Where no reading can go
on, it repairs: it reduces what can be reduced, supplies one missing token if that lets the text go
on, returns to an earlier state in which the next token is expected, or skips the token. Each repair
has a cost, and the cheapest reading is kept. -/

namespace CodeGraph.Parsing

open CodeGraph.Grammar

/-- What the parser holds. -/
structure Session where
  memo : LexMemo
  stack : Stack
  finished : Option Subtree := none
  accepted : Nat := 0
  deriving Inhabited

/-- Parsing steps. -/
abbrev Parse := StateM Session

namespace Parser

/-- Readings followed from one token to the next. -/
def maxReadings : Nat := 6

/-- Readings beyond `maxReadings` that one reduction may add. -/
def maxOverflow : Nat := 4

/-- Depth to which a reading looks for an earlier state to return to. -/
def maxDepth : Nat := 16

/-- Cost at which a reading is given up for a better one, weighed by the progress of the latter. -/
def maxCostDifference : Nat := 18 * costs.skippedTree

/-- A step that reads text. -/
def lexing {α : Type} (b : Lexing α) : Parse α :=
  modifyGet fun s =>
    let memo := s.memo
    let s := { s with memo := {} }
    let (a, memo) := b.run memo
    (a, { s with memo })

/-- The stack. -/
def stack : Parse Stack := do return (← get).stack

/-- Changes the stack. -/
def onStack (f : Stack → Stack) : Parse Unit := modify fun s => { s with stack := f s.stack }

/-- Number of readings. -/
def readings : Parse Nat := do return (← stack).heads.size

/-- Joins two readings if that is possible. -/
def merge (l : Tables) (v w : Nat) : Parse Bool := do
  let st ← stack
  if st.canMerge v w then
    modify fun s => { s with stack := (s.stack.merge l v w).1 }
    return true
  else return false

/-- How promising a reading is. -/
structure Standing where
  cost : Nat
  nodes : Nat
  weight : Int
  inError : Bool

/-- The standing of a reading. -/
def standing (v : Nat) : Parse Standing := do
  onStack (·.settleMark v)
  let s ← stack
  let paused := s.isPaused v
  return {
    cost := s.cost v + (if paused then costs.skippedTree else 0)
    nodes := s.nodesSinceError v
    weight := (s.top v).weight
    inError := paused || s.state v == errorState }

/-- Outcome of comparing two readings. -/
inductive Choice where
  | takeLeft
  | preferLeft
  | either
  | preferRight
  | takeRight

/-- Compares two standings. -/
def Standing.choose (a b : Standing) : Choice :=
  if !a.inError && b.inError then
    if a.cost < b.cost then .takeLeft else .preferLeft
  else if a.inError && !b.inError then
    if b.cost < a.cost then .takeRight else .preferRight
  else if a.cost < b.cost then
    if (b.cost - a.cost) * (1 + a.nodes) > maxCostDifference then .takeLeft else .preferLeft
  else if b.cost < a.cost then
    if (a.cost - b.cost) * (1 + b.nodes) > maxCostDifference then .takeRight else .preferRight
  else if a.weight > b.weight then .preferLeft
  else if b.weight > a.weight then .preferRight
  else .either

/-- Whether some other reading is clearly better than this one would be at the given cost. -/
def betterExists (v : Nat) (cost : Nat) : Parse Bool := do
  match (← get).finished with
  | some t => if t.cost ≤ cost then return true
  | none => pure ()
  onStack (·.settleMark v)
  let s ← stack
  let here := s.position v
  let mine : Standing :=
    { cost, nodes := s.nodesSinceError v, weight := (s.top v).weight, inError := false }
  for i in [0:s.heads.size] do
    if i == v || !s.isActive i || (s.position i).byte < here.byte then continue
    match mine.choose (← standing i) with
    | .takeRight => return true
    | .preferRight => if s.canMerge i v then return true
    | _ => pure ()
  return false

/-- Pushes a token. -/
def shift (l : Tables) (v state : Nat) (token : Subtree) (extra : Bool) : Parse Unit := do
  let token := if token.children.isEmpty then { token with extra } else token
  onStack fun s => s.push l v (some token) state
  if token.scan.isSome then
    onStack (·.setHead v fun h => { h with scan := token.scan })

/-- Reduces by a complete item along every path, making a new reading for each state that is left.
The result is the first new reading, if one remains after joining with the earlier ones. -/
def reduce (l : Tables) (v : Nat) (item : Nat) : Parse (Option Nat) := do
  let it := l.item item
  let before ← readings
  let slices ← modifyGet fun s =>
    let st := s.stack
    let s := { s with stack := default }
    let (st, slices) := st.popCount v it.consumed
    (slices, { s with stack := st })
  let mut removed := 0
  let mut i := 0
  for _ in [0:slices.size] do
    if i ≥ slices.size then break
    let slice := slices.getD i default
    let head := slice.head - removed
    -- the slices that leave the same node
    let mut stop := i + 1
    for j in [i + 1:slices.size] do
      if (slices.getD j default).head == slice.head then stop := j + 1 else break
    if head > maxReadings + maxOverflow then
      onStack (·.remove head)
      removed := removed + 1
      i := stop
      continue
    let here := (← stack).position head
    let (children, extras) := Subtree.splitTrailingExtras slice.trees
    let mut parent := Subtree.node l it.lhs (some item) children here
    let mut trailing := extras
    for j in [i + 1:stop] do
      let (children, extras) := Subtree.splitTrailingExtras (slices.getD j default).trees
      let plain := Subtree.node l it.lhs none children here
      if parent.replaces plain then
        parent := Subtree.node l it.lhs (some item) children here
        trailing := extras
    let state := (← stack).state head
    let next := (l.next? state it.lhs).getD errorState
    let tree := { parent with weight := parent.weight + it.weight }
    onStack fun s => s.push l head (some tree) next
    for e in trailing do
      onStack fun s => s.push l head (some e) next
    for j in [0:head] do
      if j == v then continue
      if ← merge l j head then
        removed := removed + 1
        break
    i := stop
  let after ← readings
  return if after > before then some before else none

/-- Takes a reading of the whole text. -/
def accept (l : Tables) (v : Nat) (token : Subtree) : Parse Unit := do
  onStack fun s => s.push l v (some token) startState
  let slices ← modifyGet fun s =>
    let st := s.stack
    let s := { s with stack := default }
    let (st, slices) := st.popAll v
    (slices, { s with stack := st })
  for slice in slices do
    let trees := slice.trees
    match trees.zipIdx.reverse.find? fun (t, _) => !t.extra with
    | none => pure ()
    | some (t, j) =>
      let children := trees.take j ++ t.children ++ trees.drop (j + 1)
      let root := Subtree.node l t.symbol t.item children t.before
      modify fun s =>
        let keep := match s.finished with
          | some old => !old.replaces root
          | none => false
        { s with accepted := s.accepted + 1, finished := if keep then s.finished else some root }
  match slices[0]? with
  | some slice => onStack (·.remove slice.head)
  | none => pure ()
  onStack (·.halt v)

/-- The reductions of a state on any of the tokens, each rule and length once, and whether some
token can be shifted. -/
def possible (l : Tables) (state : Nat) (tokens : List Nat) : Array Nat × Bool := Id.run do
  let mut reduces : Array Nat := #[]
  let mut shifts := false
  for t in tokens do
    let a := l.actionsAt state t
    for i in a.reduces do
      let it := l.item i
      let known := reduces.any fun j => (l.item j).lhs == it.lhs && (l.item j).consumed == it.consumed
      if it.consumed > 0 && !known then reduces := reduces.push i
    if a.shift.isSome && !a.repetition then shifts := true
  return (reduces, shifts)

/-- Performs every reduction that some token would allow, or that `token` allows if it is given,
leaving a reading for each state in which a token can be shifted. Says whether there is one. -/
def reduceAll (l : Tables) (start : Nat) (token : Option Nat) : Parse Bool := do
  let initial ← readings
  let tokens := match token with
    | some t => [t]
    | none => (List.range l.tokenCount).drop 1
  let mut canShift := false
  let mut v := start
  for i in [0:1000000] do
    let count ← readings
    if v ≥ count then break
    let mut merged := false
    for j in [initial:v] do
      if ← merge l j v then
        merged := true
        break
    if merged then continue
    let state := (← stack).state v
    let (reduces, shifts) := possible l state tokens
    let mut made : Option Nat := none
    for item in reduces do
      made ← reduce l v item
    if shifts then canShift := true
    else match made with
      | some r =>
        if i < maxReadings then
          onStack (·.renumber r v)
          continue
        else if token.isSome then onStack (·.remove v)
      | none => if token.isSome then onStack (·.remove v)
    if v == start then v := count else v := v + 1
  return canShift

/-- Returns to a state at the given depth, wrapping what lies above it into unexpected text. -/
def recoverTo (l : Tables) (v depth goal : Nat) : Parse Bool := do
  let slices ← modifyGet fun s =>
    let st := s.stack
    let s := { s with stack := default }
    let (st, slices) := st.popCount v depth
    (slices, { s with stack := st })
  let mut previous : Option Nat := none
  for slice in slices do
    if previous == some slice.head then continue
    if (← stack).state slice.head != goal then
      onStack (·.halt slice.head)
      continue
    let errors ← modifyGet fun s =>
      let (st, errors) := s.stack.popError slice.head
      (errors, { s with stack := st })
    let inner := match errors with
      | e :: _ => e.children
      | [] => []
    let (trees, trailing) := Subtree.splitTrailingExtras (inner ++ slice.trees)
    if !trees.isEmpty then
      let here := (← stack).position slice.head
      let error := { Subtree.node l errorSymbol none trees here with extra := true }
      onStack fun s => s.push l slice.head (some error) goal
    for t in trailing do
      onStack fun s => s.push l slice.head (some t) goal
    previous := some slice.head
  return previous.isSome

/-- Goes on from the state in which text is skipped: returns to an earlier state in which the token
is expected, and skips the token in another reading. -/
def recover (l : Tables) (v : Nat) (token : Subtree) : Parse Unit := do
  let mut recovered := false
  let count ← readings
  onStack (·.settleMark v)
  let s ← stack
  let here := s.position v
  let sinceError := s.nodesSinceError v
  let cost := s.cost v
  if !token.isError then
    for entry in (s.head v).summary do
      if entry.state == errorState || entry.position.byte == here.byte then continue
      let depth := if sinceError > 0 then entry.depth + 1 else entry.depth
      let s ← stack
      let redundant := (List.range count).any fun j =>
        s.state j == entry.state && (s.position j).byte == here.byte
      if redundant then continue
      let newCost := cost + entry.depth * costs.skippedTree
        + (here.byte - entry.position.byte) * costs.skippedByte
        + (here.row - entry.position.row) * costs.skippedLine
      if ← betterExists v newCost then break
      if l.knows entry.state token.symbol then
        if ← recoverTo l v depth entry.state then
          recovered := true
          break
  -- drop the attempts that failed
  let s ← stack
  let kept := s.heads.zipIdx.filterMap fun (h, i) =>
    match h.status with
    | .active => some h
    | _ => if i < count then some h else none
  onStack fun s => { s with heads := kept }
  if recovered && ((← readings) > maxReadings || token.scanChanged) then
    onStack (·.halt v)
    return
  if token.symbol == 0 then
    let parent := Subtree.node l errorSymbol none [] here
    onStack fun s => s.push l v (some parent) startState
    accept l v token
    return
  let newCost := cost + costs.skippedTree + token.totalBytes * costs.skippedByte
    + token.totalRows * costs.skippedLine
  if ← betterExists v newCost then
    onStack (·.halt v)
    return
  let actions := l.actionsAt startState token.symbol
  let token := if actions.extra then { token with extra := true } else token
  let mut run := Subtree.node l errorRun none [token] here
  if sinceError > 0 then
    let slices ← modifyGet fun s =>
      let (st, slices) := s.stack.popCount v 1
      (slices, { s with stack := st })
    match slices[0]? with
    | none => pure ()
    | some slice =>
      onStack fun s => { s with heads := s.heads.take (slice.head + 1) }
      onStack (·.renumber slice.head v)
      run := Subtree.node l errorRun none (slice.trees ++ [run]) here
  let skipped := run
  onStack fun s => s.push l v (some skipped) errorState
  if token.scan.isSome then
    onStack (·.setHead v fun h => { h with scan := token.scan })

/-- Begins the repair of a reading whose next token is not expected. -/
def repair (l : Tables) (v : Nat) (token : Subtree) : Parse Unit := do
  let previous ← readings
  let _ ← reduceAll l v none
  let count ← readings
  let here := (← stack).position v
  let mut supplied := false
  let mut w := v
  for _ in [0:count + 1] do
    if w ≥ count then break
    if !supplied then
      let state := (← stack).state w
      for symbol in [1:l.tokenCount] do
        match l.next? state symbol with
        | none => pure ()
        | some next =>
          if next == errorState || next == state then continue
          let actions := l.actionsAt next token.symbol
          if !actions.reduces.isEmpty then
            let copy ← modifyGet fun s =>
              let (st, i) := s.stack.copy w
              (i, { s with stack := st })
            onStack fun s => s.push l copy (some (Subtree.missingLeaf symbol here)) next
            if ← reduceAll l copy (if token.symbol == 0 then none else some token.symbol) then
              supplied := true
              break
    onStack fun s => s.push l w none errorState
    w := if w == v then previous else w + 1
  for _ in [previous:count] do
    let _ ← merge l v previous
  onStack (·.recordSummary v maxDepth)
  recover l v token

/-- Takes a reading to the next token, or as far as it goes. -/
def advance (l : Tables) (text : String) (v : Nat) : Parse Unit := do
  let s ← stack
  let mut state := s.state v
  let here := s.position v
  let scan := (s.head v).scan
  let advanced := s.hasAdvanced v
  let mut token ← lexing (Lexer.lex l text state here scan advanced)
  for _ in [0:1000000] do
    if state == errorState then
      if (l.extraSet.testBit token.symbol) then shift l v state token true
      else recover l v token
      return
    let actions := l.actionsAt state token.symbol
    let mut last : Option Nat := none
    let mut reduced := false
    for item in actions.reduces do
      let made ← reduce l v item
      reduced := true
      if made.isSome then last := made
    if actions.accept then
      accept l v token
      return
    if actions.shift.isSome && !actions.repetition then
      shift l v (actions.shift.getD errorState) token false
      return
    if actions.extra then
      shift l v state token true
      return
    match last with
    | some r =>
      onStack (·.renumber r v)
      state := (← stack).state v
    | none =>
      if reduced then
        onStack (·.halt v)
        return
      -- a keyword that is not expected may be an ordinary word
      if token.keyword && token.symbol != l.grammar.word then
        if l.knows state l.grammar.word then
          token := { token with symbol := l.grammar.word }
          continue
      let waiting := token
      onStack (·.pause v waiting)
      return

/-- Orders the readings by promise, drops the hopeless ones and, where only waiting ones are left,
repairs the best. The result is the least cost of a reading that goes on. -/
def condense (l : Tables) : Parse (Option Nat) := do
  let mut least : Option Nat := none
  let mut i := 0
  for _ in [0:1000000] do
    if i ≥ (← readings) then break
    if (← stack).isHalted i then
      onStack (·.remove i)
      continue
    let mine ← standing i
    if !mine.inError && (match least with | some c => mine.cost < c | none => true) then
      least := some mine.cost
    let mut here := i
    let mut gone := false
    let mut j := 0
    for _ in [0:1000000] do
      if j ≥ here || gone then break
      let left ← standing j
      match left.choose mine with
      | .takeLeft =>
        onStack (·.remove here)
        gone := true
      | .preferLeft | .either =>
        if ← merge l j here then gone := true
        else j := j + 1
      | .preferRight =>
        if ← merge l j here then gone := true
        else
          let w := here
          let u := j
          onStack (·.swap w u)
          j := j + 1
      | .takeRight =>
        let u := j
        onStack (·.remove u)
        here := here - 1
    i := if gone then here else here + 1
  onStack fun s => { s with heads := s.heads.take maxReadings }
  let mut going := false
  let mut k := 0
  for _ in [0:1000] do
    let s ← stack
    if k ≥ s.heads.size then break
    match (s.head k).status with
    | .paused token =>
      if !going && (← get).accepted < maxReadings then
        least := some (s.cost k)
        onStack (·.setHead k fun h => { h with status := .active })
        repair l k token
        going := true
        k := k + 1
      else onStack (·.remove k)
    | _ =>
      going := true
      k := k + 1
  return least

/-- Follows the readings to the end of the text. -/
def run (l : Tables) (text : String) : Parse Unit := do
  let mut last := 0
  for _ in [0:1000000000] do
    for v in [0:1000] do
      if v ≥ (← readings) then break
      for _ in [0:1000000000] do
        if !(← stack).isActive v then break
        advance l text v
        let pos := ((← stack).position v).byte
        if pos > last || (v > 0 && pos == last) then
          last := pos
          break
    let count ← readings
    let least ← condense l
    match (← get).finished, least with
    | some t, some c => if t.cost < c then break
    | some _, none => break
    | none, _ => pure ()
    if count == 0 then break

/-- The tree of a text. -/
def parse (l : Tables) (text : String) : Subtree :=
  let start : Session := { memo := {}, stack := Stack.empty startState }
  let ((), s) := (run l text).run start
  s.finished.getD (Subtree.node l errorSymbol none [] {})

end Parser

end CodeGraph.Parsing
