import CodeGraph.Parsing.Subtree

/-! # The stack of readings

All readings of the text so far, as stacks that share their common parts. A stack node is a parse
state at a position; its links lead down, each over one tree. Every reading ends in a head, and the
heads are kept in order of promise. -/

namespace CodeGraph.Parsing

/-- A step down the stack; without a tree it marks the place where a reading went wrong. -/
structure Link where
  node : Nat
  tree : Option Subtree
  deriving Inhabited

/-- A parse state reached at a position. -/
structure StackNode where
  state : Nat
  position : Position
  links : Array Link
  cost : Nat
  nodeCount : Nat
  weight : Int
  deriving Inhabited

/-- Whether a reading goes on. -/
inductive Status where
  | active
  /-- The next token was not expected. -/
  | paused (lookahead : Subtree)
  | halted
  deriving Inhabited

/-- A state met on the way down a stack, with the number of trees above it. -/
structure SummaryEntry where
  position : Position
  depth : Nat
  state : Nat
  deriving Inhabited

/-- The end of a reading. -/
structure Head where
  node : Nat
  summary : Array SummaryEntry := #[]
  nodeCountAtError : Nat := 0
  scan : Option ScanState := none
  status : Status := .active
  deriving Inhabited

/-- The readings. -/
structure Stack where
  nodes : Array StackNode
  heads : Array Head
  deriving Inhabited

/-- Trees popped from a reading, and the head made for what is left. -/
structure Slice where
  trees : List Subtree
  head : Nat
  deriving Inhabited

namespace Stack

/-- Most links of a node. -/
def maxLinks : Nat := 8

/-- Most paths followed down the stack at once. -/
def maxPaths : Nat := 64

/-- One reading, of nothing. -/
def empty (state : Nat) : Stack :=
  { nodes := #[{ state, position := {}, links := #[], cost := 0, nodeCount := 0, weight := 0 }]
    heads := #[{ node := 0 }] }

/-- The head of a number. -/
def head (s : Stack) (v : Nat) : Head := s.heads.getD v default

/-- The stack node of a number. -/
def nodeAt (s : Stack) (n : Nat) : StackNode := s.nodes.getD n default

/-- The stack node in which a reading ends. -/
def top (s : Stack) (v : Nat) : StackNode := s.nodeAt (s.head v).node

/-- The parse state of a reading. -/
def state (s : Stack) (v : Nat) : Nat := (s.top v).state

/-- How far a reading has come. -/
def position (s : Stack) (v : Nat) : Position := (s.top v).position

/-- Whether a reading goes on. -/
def isActive (s : Stack) (v : Nat) : Bool :=
  match (s.head v).status with
  | .active => true
  | _ => false

/-- Whether a reading waits. -/
def isPaused (s : Stack) (v : Nat) : Bool :=
  match (s.head v).status with
  | .paused _ => true
  | _ => false

/-- Whether a reading has ended. -/
def isHalted (s : Stack) (v : Nat) : Bool :=
  match (s.head v).status with
  | .halted => true
  | _ => false

/-- Changes one head. -/
def setHead (s : Stack) (v : Nat) (f : Head → Head) : Stack := { s with heads := s.heads.modify v f }

/-- Pushes a tree, or the mark of an error, and enters a state. -/
def push (l : Tables) (s : Stack) (v : Nat) (tree : Option Subtree) (state : Nat) : Stack :=
  let h := s.head v
  let below := s.nodeAt h.node
  let node : StackNode := match tree with
    | some t =>
      { state, position := t.stop, links := #[⟨h.node, tree⟩], cost := below.cost + t.cost
        nodeCount := below.nodeCount + t.nodeCount l, weight := below.weight + t.weight }
    | none =>
      { state, position := below.position, links := #[⟨h.node, none⟩], cost := below.cost
        nodeCount := below.nodeCount, weight := below.weight }
  let id := s.nodes.size
  let count := if tree.isNone then node.nodeCount else h.nodeCountAtError
  let s := { s with nodes := s.nodes.push node }
  s.setHead v fun h => { h with node := id, nodeCountAtError := count }

/-- Removes a head. -/
def remove (s : Stack) (v : Nat) : Stack := { s with heads := s.heads.eraseIdxIfInBounds v }

/-- Moves the head `source` to the place of the earlier head `target`. -/
def renumber (s : Stack) (source target : Nat) : Stack :=
  if source == target then s
  else
    let h := s.head source
    let old := s.head target
    let h := if !old.summary.isEmpty && h.summary.isEmpty then { h with summary := old.summary } else h
    (s.setHead target fun _ => h).remove source

/-- Exchanges two heads. -/
def swap (s : Stack) (v w : Nat) : Stack :=
  let a := s.head v
  let b := s.head w
  (s.setHead v fun _ => b).setHead w fun _ => a

/-- Adds a copy of a head at the end. -/
def copy (s : Stack) (v : Nat) : Stack × Nat :=
  ({ s with heads := s.heads.push { s.head v with summary := #[] } }, s.heads.size)

/-- Ends a reading. -/
def halt (s : Stack) (v : Nat) : Stack := s.setHead v fun h => { h with status := .halted }

/-- Lets a reading wait at an unexpected token. -/
def pause (s : Stack) (v : Nat) (lookahead : Subtree) : Stack :=
  let count := (s.top v).nodeCount
  s.setHead v fun h => { h with status := .paused lookahead, nodeCountAtError := count }

/-- Cost of the errors of a reading; one that waits or has just gone wrong will cost more. -/
def cost (s : Stack) (v : Nat) : Nat :=
  let n := s.top v
  let fresh := n.state == 0 && (match n.links[0]? with
    | some k => k.tree.isNone
    | none => false)
  n.cost + (if s.isPaused v || fresh then costs.recovery else 0)

/-- Nodes made since the reading last went wrong. -/
def nodesSinceError (s : Stack) (v : Nat) : Nat := (s.top v).nodeCount - (s.head v).nodeCountAtError

/-- Lowers the mark from which progress is counted to the nodes that are left. -/
def settleMark (s : Stack) (v : Nat) : Stack :=
  let count := (s.top v).nodeCount
  s.setHead v fun h => if count < h.nodeCountAtError then { h with nodeCountAtError := count } else h

/-- Whether text was read since the reading last went wrong. -/
def hasAdvanced (s : Stack) (v : Nat) : Bool :=
  let mark := (s.head v).nodeCountAtError
  let rec go : Nat → Nat → Bool
    | 0, _ => false
    | fuel + 1, n =>
      let node := s.nodeAt n
      match node.links.toList with
      | ⟨below, some t⟩ :: _ =>
        if t.totalBytes > 0 then true
        else if node.nodeCount > mark && t.cost == 0 then go fuel below
        else false
      | _ => false
  if (s.top v).cost == 0 then true else go s.nodes.size (s.head v).node

/-- Adds a link to a node. A link that reads the same thing as one that is there is joined with it:
between the same two nodes the heavier tree stays, and otherwise the nodes below are joined.
`fuel` bounds the depth of joining. -/
def addLink (l : Tables) : Nat → Stack → Nat → Link → Stack
  | 0, s, _, _ => s
  | fuel + 1, s, n, link =>
    if link.node == n then s
    else
      let self := s.nodeAt n
      let weightOf (t : Option Subtree) : Int := (t.map (·.weight)).getD 0
      let below := s.nodeAt link.node
      let same := self.links.findIdx? fun k =>
        Subtree.equivalent k.tree link.tree &&
          (k.node == link.node ||
            (let e := s.nodeAt k.node
             e.state == below.state && e.position.byte == below.position.byte && e.cost == below.cost))
      match same with
      | some i =>
        let k := self.links.getD i default
        if k.node == link.node then
          if weightOf link.tree > weightOf k.tree then
            { s with nodes := s.nodes.modify n fun self =>
                { self with
                  links := self.links.set! i link
                  weight := below.weight + weightOf link.tree } }
          else s
        else
          let s := below.links.foldl (fun s inner => addLink l fuel s k.node inner) s
          let w := below.weight + weightOf link.tree
          { s with nodes := s.nodes.modify n fun self =>
              if w > self.weight then { self with weight := w } else self }
      | none =>
        if self.links.size ≥ maxLinks then s
        else
          let count := below.nodeCount + (link.tree.map (·.nodeCount l)).getD 0
          let w := below.weight + weightOf link.tree
          { s with nodes := s.nodes.modify n fun self =>
              { self with
                links := self.links.push link
                nodeCount := max self.nodeCount count
                weight := max self.weight w } }

/-- Whether two readings have come to the same state in the same way. -/
def canMerge (s : Stack) (v w : Nat) : Bool :=
  let a := s.top v
  let b := s.top w
  s.isActive v && s.isActive w && a.state == b.state && a.position.byte == b.position.byte &&
    a.cost == b.cost && (s.head v).scan == (s.head w).scan

/-- Joins the reading `w` into `v`, if that is possible. -/
def merge (l : Tables) (s : Stack) (v w : Nat) : Stack × Bool :=
  if s.canMerge v w then
    let target := (s.head v).node
    let s := (s.top w).links.foldl (fun s k => addLink l 10000 s target k) s
    let s := if (s.nodeAt target).state == 0 then
        let count := (s.nodeAt target).nodeCount
        s.setHead v fun h => { h with nodeCountAtError := count }
      else s
    (s.remove w, true)
  else (s, false)

/-- A path down the stack. -/
structure Path where
  node : Nat
  /-- Trees on the path, top first. -/
  trees : List Subtree
  /-- Number of trees that are not extras. -/
  depth : Nat
  deriving Inhabited

/-- What to do at the end of a path. -/
inductive Step where
  | follow
  | stop
  /-- Take the path and end it. -/
  | take
  /-- Take the path and go on. -/
  | takeAndFollow

/-- Adds a slice: next to the last one that leaves the same node, else with a head of its own. -/
def addSlice (s : Stack) (v : Nat) (slices : Array Slice) (node : Nat) (trees : List Subtree) :
    Stack × Array Slice :=
  let rec find : Nat → Option Nat
    | 0 => none
    | i + 1 => if (s.head (slices.getD i default).head).node == node then some i else find i
  match find slices.size with
  | some i => (s, slices.insertIdxIfInBounds (i + 1) ⟨trees, (slices.getD i default).head⟩)
  | none =>
    let old := s.head v
    let new : Head := { node, nodeCountAtError := old.nodeCountAtError, scan := old.scan }
    ({ s with heads := s.heads.push new }, slices.push ⟨trees, s.heads.size⟩)

/-- Follows every path down from a reading, as `decide` says, over its own state. -/
def walk {σ : Type} (s : Stack) (v : Nat) (init : σ) (decide : σ → Stack → Path → σ × Step) :
    Stack × Array Slice × σ := Id.run do
  let mut s := s
  let mut slices : Array Slice := #[]
  let mut acc := init
  let mut paths : Array Path := #[⟨(s.head v).node, [], 0⟩]
  for _ in [0:1000000] do
    if paths.isEmpty then break
    let mut kept : Array Path := #[]
    let mut added : Array Path := #[]
    for p in paths do
      let (acc', step) := decide acc s p
      acc := acc'
      let links := (s.nodeAt p.node).links
      let (taken, ends) := match step with
        | .follow => (false, links.isEmpty)
        | .stop => (false, true)
        | .take => (true, true)
        | .takeAndFollow => (true, links.isEmpty)
      if taken then
        let (s', slices') := addSlice s v slices p.node p.trees
        s := s'
        slices := slices'
      if !ends then
        let extend (k : Link) : Path :=
          match k.tree with
          | some t => ⟨k.node, t :: p.trees, if t.extra then p.depth else p.depth + 1⟩
          | none => ⟨k.node, p.trees, p.depth + 1⟩
        for j in [1:links.size] do
          if paths.size + added.size < maxPaths then
            added := added.push (extend (links.getD j default))
        kept := kept.push (extend (links.getD 0 default))
    paths := kept ++ added
  return (s, slices, acc)

/-- Pops the given number of trees that are not extras, along every path. -/
def popCount (s : Stack) (v count : Nat) : Stack × Array Slice :=
  let (s, slices, _) := s.walk v () fun _ _ p => ((), if p.depth == count then .take else .follow)
  (s, slices)

/-- Pops everything, along every path. -/
def popAll (s : Stack) (v : Nat) : Stack × Array Slice :=
  let (s, slices, _) := s.walk v () fun _ s p =>
    ((), if (s.nodeAt p.node).links.isEmpty then .take else .follow)
  (s, slices)

/-- Pops the unexpected text on top of a reading, if there is any. -/
def popError (s : Stack) (v : Nat) : Stack × List Subtree :=
  let onTop := (s.top v).links.any fun k => match k.tree with
    | some t => t.isError
    | none => false
  if !onTop then (s, [])
  else
    let (s', slices, _) := s.walk v false fun found _ p =>
      match p.trees with
      | t :: _ => if !found && t.isError then (true, .take) else (found, .stop)
      | [] => (found, .follow)
    match slices[0]? with
    | some slice => (s'.renumber slice.head v, slice.trees)
    | none => (s', [])

/-- Records the states on the way down, to the given depth, each once at a depth. -/
def recordSummary (s : Stack) (v maxDepth : Nat) : Stack :=
  let (_, _, summary) := s.walk v (#[] : Array SummaryEntry) fun entries s p =>
    if p.depth > maxDepth then (entries, .stop)
    else
      let n := s.nodeAt p.node
      if entries.any fun e => e.depth == p.depth && e.state == n.state then (entries, .follow)
      else (entries.push ⟨n.position, p.depth, n.state⟩, .follow)
  s.setHead v fun h => { h with summary }

end Stack

end CodeGraph.Parsing
