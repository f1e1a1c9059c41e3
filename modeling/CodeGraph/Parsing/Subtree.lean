import CodeGraph.Parsing.Tables

/-! # Trees under construction

The trees that the parser builds: every symbol of every production has a node, whether or not it
appears in the finished tree. A tree carries the cost of the errors in it; of two readings of a text
the cheaper one is taken. -/

namespace CodeGraph.Parsing

open CodeGraph.Grammar

/-- Symbol of a stretch of unexpected text. -/
def errorSymbol : Nat := 65535

/-- Symbol of a stretch of unexpected text that is still growing. -/
def errorRun : Nat := 65534

/-- Costs of what goes wrong in a reading. -/
structure Costs where
  recovery : Nat
  missing : Nat
  skippedTree : Nat
  skippedByte : Nat
  skippedLine : Nat

/-- The costs in use. -/
def costs : Costs := ⟨500, 110, 100, 1, 30⟩

/-- A tree under construction. -/
structure Subtree where
  symbol : Nat
  /-- Where the white space in front of the tree begins. -/
  before : Position
  start : Position
  stop : Position
  extra : Bool := false
  /-- A token that is not in the text. -/
  missing : Bool := false
  /-- A word that is a token of its own. -/
  keyword : Bool := false
  /-- The complete item from which the node was made. -/
  item : Option Nat := none
  children : List Subtree := []
  /-- Cost of the errors inside; a missing token counts itself. -/
  cost : Nat := 0
  /-- Number of nodes of the finished tree below this one. -/
  descendants : Nat := 0
  /-- Number of children in the finished tree. -/
  visibleChildren : Nat := 0
  weight : Int := 0
  /-- State of the scanner after the last external token inside. -/
  scan : Option ScanState := none
  /-- The tree is an external token that changed the scanner's state. -/
  scanChanged : Bool := false
  deriving Inhabited

namespace Subtree

/-- What the tree shows of a symbol. -/
def info (l : Tables) (symbol : Nat) : SymbolInfo :=
  if symbol == errorSymbol then ⟨"ERROR", true, true⟩
  else if symbol == errorRun then ⟨"ERROR", false, false⟩
  else l.grammar.symbols.getD symbol default

/-- Whether the node appears in the finished tree under its own name. -/
def visible (l : Tables) (t : Subtree) : Bool := (info l t.symbol).visible

/-- Whether the tree is unexpected text. -/
def isError (t : Subtree) : Bool := t.symbol == errorSymbol

/-- Bytes of the tree with the white space in front. -/
def totalBytes (t : Subtree) : Nat := t.stop.byte - t.before.byte

/-- Bytes of the tree itself. -/
def bytes (t : Subtree) : Nat := t.stop.byte - t.start.byte

/-- Lines that end in the tree with the white space in front. -/
def totalRows (t : Subtree) : Nat := t.stop.row - t.before.row

/-- Number of nodes that the tree adds to the finished tree; growing errors count as progress. -/
def nodeCount (l : Tables) (t : Subtree) : Nat :=
  t.descendants + (if t.visible l then 1 else 0) + (if t.symbol == errorRun then 1 else 0)

/-- A token that is not in the text, at a position. -/
def missingLeaf (symbol : Nat) (at_ : Position) : Subtree :=
  { symbol, before := at_, start := at_, stop := at_, missing := true
    cost := costs.missing + costs.recovery }

/-- A node over children; `pos` places a node that has none. -/
def node (l : Tables) (symbol : Nat) (item : Option Nat) (children : List Subtree)
    (pos : Position) : Subtree := Id.run do
  let unexpected := symbol == errorSymbol || symbol == errorRun
  let names := match item with
    | some i => (l.table.items.getD i default).names
    | none => #[]
  let mut cost := 0
  let mut descendants := 0
  let mut shown := 0
  let mut weight : Int := 0
  let mut scan : Option ScanState := none
  let mut index := 0
  for c in children do
    if c.symbol != errorRun then cost := cost + c.cost
    if unexpected && !c.extra && !(c.isError && c.children.isEmpty) then
      if c.visible l then cost := cost + costs.skippedTree
      else if !c.children.isEmpty then cost := cost + costs.skippedTree * c.visibleChildren
    weight := weight + c.weight
    descendants := descendants + c.descendants
    let renamed := !c.extra && c.symbol != 0 && (names.getD index none).isSome
    if renamed || c.visible l then
      descendants := descendants + 1
      shown := shown + 1
    else if !c.children.isEmpty then shown := shown + c.visibleChildren
    if c.scan.isSome then scan := c.scan
    if !c.extra then index := index + 1
  let firstChild := children.head?
  let before := (firstChild.map (·.before)).getD pos
  let start := (firstChild.map (·.start)).getD pos
  let stop := (children.getLast?.map (·.stop)).getD pos
  if unexpected then
    cost := cost + costs.recovery + costs.skippedByte * (stop.byte - start.byte)
      + costs.skippedLine * (stop.row - start.row)
  return { symbol, before, start, stop, item, children, cost, descendants
           visibleChildren := shown, weight, scan }

/-- First difference of two trees in the order of symbols and numbers of children; `fuel` bounds
the number of nodes compared. -/
def compareAux : Nat → List (Subtree × Subtree) → Ordering
  | 0, _ | _, [] => .eq
  | fuel + 1, (a, b) :: rest =>
    if a.symbol < b.symbol then .lt
    else if b.symbol < a.symbol then .gt
    else if a.children.length < b.children.length then .lt
    else if b.children.length < a.children.length then .gt
    else compareAux fuel (a.children.zip b.children ++ rest)

/-- Order of trees by symbols and numbers of children, from the root on. -/
def compare (a b : Subtree) : Ordering := compareAux 1000000 [(a, b)]

/-- Whether `new` is to be taken in place of `old`: fewer errors, then the greater weight, then the
order of trees; with equal errors the later one. -/
def replaces (old new : Subtree) : Bool :=
  if new.cost < old.cost then true
  else if old.cost < new.cost then false
  else if new.weight > old.weight then true
  else if old.weight > new.weight then false
  else if old.cost > 0 then true
  else compare old new == .gt

/-- Splits off the extras at the end. -/
def splitTrailingExtras (children : List Subtree) : List Subtree × List Subtree :=
  let extras := (children.reverse.takeWhile (·.extra)).reverse
  (children.take (children.length - extras.length), extras)

/-- Whether two trees between the same places are readings of the same thing. -/
def equivalent (a b : Option Subtree) : Bool :=
  match a, b with
  | none, none => true
  | some a, some b =>
    a.symbol == b.symbol &&
      ((a.cost > 0 && b.cost > 0) ||
        (a.start.byte - a.before.byte == b.start.byte - b.before.byte && a.bytes == b.bytes &&
          a.children.length == b.children.length && a.extra == b.extra &&
          (a.scan == b.scan || !a.children.isEmpty)))
  | _, _ => false

end Subtree

end CodeGraph.Parsing
