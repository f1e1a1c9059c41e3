import CodeGraph.Grammar.Item
import CodeGraph.Grammar.TokenAutomaton
import CodeGraph.Grammar.TokenSet

/-! # Overlapping tokens

How the strings of two tokens meet: whether both match the same string, or one goes on where the
other is complete, perhaps with a character that may follow the other. Tokens that meet in such a
way cannot always be looked for at the same place. Characters count only by the sets that the
patterns distinguish, so each token has a small deterministic automaton over classes of characters,
and two tokens are compared by running both automata side by side. -/

namespace CodeGraph.Grammar

/-- How one token meets another. -/
structure Overlap where
  /-- It is complete where white space may still be skipped. -/
  blank : Bool := false
  /-- It goes on where the other is complete. -/
  longer : Bool := false
  /-- It goes on where the other is complete, with a character that may follow the other. -/
  follows : Bool := false
  /-- Both match one string, and it is preferred. -/
  same : Bool := false
  /-- It is complete where the other goes on, and is preferred to going on. -/
  shorter : Bool := false
  /-- It matches a string that the other cannot begin. -/
  apart : Bool := false
  /-- Strings of both begin alike. -/
  shared : Bool := false
  deriving BEq, Inhabited

namespace Overlap

/-- Whether looking for this token can spoil looking for the other. -/
def clashes (o : Overlap) : Bool := o.follows || o.blank || o.same

end Overlap

/-! ## Classes of characters -/

/-- Beyond the last character. -/
def codeLimit : Nat := 0x110000

/-- A partition of the characters, coarse enough that each of some sets is a union of parts. -/
structure CharClasses where
  /-- The parts of each set, as a bit set. -/
  parts : Std.HashMap CharSet Nat
  count : Nat
  deriving Inhabited

/-- The coarsest such partition. -/
def CharClasses.ofSets (sets : Array CharSet) : CharClasses := Id.run do
  let mut bounds : Std.HashMap Nat Unit := {(0, ())}
  for s in sets do
    for (a, b) in s.ranges do
      bounds := (bounds.insert a ()).insert (b + 1) ()
  let points := (bounds.keys.toArray.filter (· < codeLimit)).qsort (· < ·)
  let index := points.zipIdx.foldl (fun (m : Std.HashMap Nat Nat) (p, i) => m.insert p i) {}
  -- the sets that contain each interval between two bounds
  let mut members : Array Nat := Array.replicate points.size 0
  for (s, i) in sets.zipIdx do
    for (a, b) in s.ranges do
      let stop := if b + 1 < codeLimit then index.getD (b + 1) points.size else points.size
      for k in [index.getD a points.size:stop] do
        members := members.modify k (· ||| (1 <<< i))
  let mut ids : Std.HashMap Nat Nat := {}
  for m in members do
    if !ids.contains m then ids := ids.insert m ids.size
  let classes := ids.toArray
  let parts := sets.zipIdx.foldl (fun (table : Std.HashMap CharSet Nat) (s, i) =>
    table.insert s (classes.foldl (fun acc (m, c) =>
      if m.testBit i != s.negated then acc ||| (1 <<< c) else acc) 0)) {}
  return { parts, count := classes.size }

/-! ## One token as a deterministic automaton -/

/-- A step on one class of characters. -/
structure TokenStep where
  target : Nat
  skip : Bool
  prec : Int
  deriving Inhabited

/-- A state of a token's automaton. -/
structure TokenNode where
  /-- Precedence of the token, if it is complete here. -/
  complete : Option Int
  /-- White space may still be skipped here. -/
  skips : Bool
  steps : Array (Option TokenStep)
  deriving Inhabited

/-- The deterministic automaton of one token; the first state is the start. -/
abbrev TokenNodes := Array TokenNode

namespace TokenAutomaton

/-- The deterministic automaton of the token that starts at a state. -/
def nodesFrom (a : TokenAutomaton) (classes : CharClasses) (start : Nat) : TokenNodes := Id.run do
  let first := (a.closures.getD start #[]).qsort (· < ·)
  let mut runs : Array Run := #[first]
  let mut ids : Std.HashMap Run Nat := {(first, 0)}
  let mut nodes : TokenNodes := #[]
  for i in [0:100000] do
    match runs[i]? with
    | none => break
    | some run =>
      let complete := (a.complete? run).map (·.2)
      let mut moves : Array (Option Move) := Array.replicate classes.count none
      for s in run do
        match a.states[s]? with
        | some (.read _ set next skip prec) =>
          let parts := classes.parts.getD set 0
          let target := a.closures.getD next #[]
          for c in TokenSet.toList parts do
            moves := moves.modify c fun m => match m with
              | some m => some ⟨insertAll m.run target, m.skip && skip, max m.prec prec⟩
              | none => some ⟨target, skip, prec⟩
        | _ => pure ()
      let mut steps : Array (Option TokenStep) := #[]
      for m in moves do
        match m with
        | none => steps := steps.push none
        | some m =>
          let target := m.run.qsort (· < ·)
          match ids[target]? with
          | some j => steps := steps.push (some ⟨j, m.skip, m.prec⟩)
          | none =>
            ids := ids.insert target runs.size
            steps := steps.push (some ⟨runs.size, m.skip, m.prec⟩)
            runs := runs.push target
      nodes := nodes.push { complete, skips := a.skips run, steps }
  return nodes

end TokenAutomaton

/-- The classes of characters that begin a token, white space in front included. -/
def TokenNodes.beginnings (nodes : TokenNodes) : Nat :=
  match nodes[0]? with
  | some n => n.steps.zipIdx.foldl (fun acc (s, c) => if s.isSome then acc ||| (1 <<< c) else acc) 0
  | none => 0

/-! ## Two tokens side by side -/

/-- One of the two tokens that are compared. -/
structure Contender where
  nodes : TokenNodes
  /-- Classes of the characters that may follow the token. -/
  following : Nat
  specificity : Nat
  rank : Nat
  deriving Inhabited

/-- Whether the first token is preferred when both are complete with these precedences. -/
def Contender.beats (x y : Contender) (p q : Int) : Bool :=
  if p != q then p > q
  else if x.specificity != y.specificity then x.specificity > y.specificity
  else x.rank < y.rank

/-- How each of two tokens meets the other. -/
def Contender.meet (x y : Contender) : Overlap × Overlap := Id.run do
  let mut first : Overlap := {}
  let mut second : Overlap := {}
  let mut pending : List (Nat × Nat) := [(0, 0)]
  let mut seen : Std.HashMap (Nat × Nat) Unit := {}
  for _ in [0:1000000] do
    match pending with
    | [] => break
    | (i, j) :: rest =>
      pending := rest
      let a := x.nodes.getD i default
      let b := y.nodes.getD j default
      let skips := a.skips || b.skips
      if !skips then
        first := { first with shared := true }
        second := { second with shared := true }
      if skips && a.complete.isSome then first := { first with blank := true }
      if skips && b.complete.isSome then second := { second with blank := true }
      -- the token that is complete here, and its precedence
      let complete : Option (Bool × Int) := match a.complete, b.complete with
        | some p, some q => if x.beats y p q then some (true, p) else some (false, q)
        | some p, none => some (true, p)
        | none, some q => some (false, q)
        | none, none => none
      if a.complete.isSome && b.complete.isSome then
        match complete with
        | some (true, _) => first := { first with same := true }
        | _ => second := { second with same := true }
      for c in [0:a.steps.size] do
        match a.steps.getD c none, b.steps.getD c none with
        | none, none => pure ()
        | some s, some t =>
          let pair := (s.target, t.target)
          if !seen.contains pair then
            seen := seen.insert pair ()
            pending := pair :: pending
        | some s, none =>
          first := { first with apart := true }
          match complete with
          | some (false, p) =>
            if s.prec > p || (s.prec == p && !s.skip && !skips) then
              first := { first with longer := true, follows := first.follows || y.following.testBit c }
            else second := { second with shorter := true }
          | _ => pure ()
        | none, some t =>
          second := { second with apart := true }
          match complete with
          | some (true, p) =>
            if t.prec > p || (t.prec == p && !t.skip && !skips) then
              second := { second with longer := true, follows := second.follows || x.following.testBit c }
            else first := { first with shorter := true }
          | _ => pure ()
  return (first, second)

/-! ## All tokens -/

/-- For each token, the tokens that can follow it. -/
def followingTokens (g : Productions) (t : ItemTable) : Array Nat := Id.run do
  let n := g.tokenCount
  let mut following : Array Nat := Array.replicate n 0
  for v in g.nonterminals do
    for p in v.productions do
      for (s, u) in p.steps.zip (p.steps.drop 1) do
        let ends := t.last.getD s.symbol 0
        let begins := t.first.getD u.symbol 0
        for i in TokenSet.toList ends do
          following := following.modify i (· ||| begins)
  let lexical := (List.range n).foldl (fun acc i =>
    if (g.tokens.getD i none).isSome then acc ||| (1 <<< i) else acc) 0
  let extras := g.extras.foldl (fun acc e => acc ||| (1 <<< e)) 0
  following := following.map (· ||| extras)
  for e in g.extras do
    following := following.setIfInBounds e lexical
  return following

/-- How every two tokens meet: by the first token, then by the second. -/
def overlaps (g : Productions) (t : ItemTable) (a : TokenAutomaton) : Array (Array Overlap) := Id.run do
  let n := g.tokenCount
  let sets := (a.states.foldl (fun (m : Std.HashMap CharSet Unit) s =>
    match s with
    | .read _ set _ _ _ => m.insert set ()
    | _ => m) {}).keys.toArray
  let classes := CharClasses.ofSets sets
  let nodes := a.starts.map fun s? => match s? with
    | some s => a.nodesFrom classes s
    | none => #[]
  let beginnings := nodes.map TokenNodes.beginnings
  let contenders := (followingTokens g t).zipIdx.map fun (tokens, i) =>
    let following := (TokenSet.toList tokens).foldl (fun acc j => acc ||| beginnings.getD j 0) 0
    ({ nodes := nodes.getD i #[], following, specificity := a.specificity.getD i 0
       rank := a.rank.getD i 0 } : Contender)
  let mut table : Array (Array Overlap) := Array.replicate n (Array.replicate n {})
  for i in [0:n] do
    if (a.starts.getD i none).isNone then continue
    for j in [0:i] do
      if (a.starts.getD j none).isNone then continue
      let (first, second) := (contenders.getD i default).meet (contenders.getD j default)
      table := table.modify i fun row => row.set! j first
      table := table.modify j fun row => row.set! i second
  return table

end CodeGraph.Grammar
