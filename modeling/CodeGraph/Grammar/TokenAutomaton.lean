import CodeGraph.Grammar.Production

/-! # Token automata

The patterns of all tokens as one nondeterministic automaton. A run starts from the tokens that are
allowed at a place, reads skipped white space and then one token, and remembers the last token that
was complete. Of two tokens complete at the same place the one of higher precedence is taken, then
the more specific one, then the one that the grammar mentions first. -/

namespace CodeGraph.Grammar

/-- A state of the automaton. -/
inductive TokenState where
  /-- The token is complete. -/
  | complete (token : Nat) (prec : Int)
  /-- Reads one character of the set; `skip` marks white space in front of the token. -/
  | read (token : Nat) (set : CharSet) (next : Nat) (skip : Bool) (prec : Int)
  /-- Goes on from either state. -/
  | split (left right : Nat)
  deriving Inhabited

/-- The automaton of all tokens. -/
structure TokenAutomaton where
  states : Array TokenState
  /-- For each state, the states that read or complete a token and are reached without reading. -/
  closures : Array (Array Nat)
  /-- First state of each token, by symbol. -/
  starts : Array (Option Nat)
  /-- `Token.specificity`, by symbol. -/
  specificity : Array Nat
  /-- Place among the tokens as the grammar mentions them, by symbol. -/
  rank : Array Nat
  deriving Inhabited

namespace TokenAutomaton

/-- Where and how a pattern is being built. -/
structure Site where
  token : Nat
  skip : Bool
  prec : Int

/-- Adds a state and gives its number. -/
def addState (s : TokenState) : StateM (Array TokenState) Nat :=
  modifyGet fun a => (a.size, a.push s)

/-- States that read the characters in turn and go on to `next`. -/
def buildText (site : Site) (next : Nat) : List Char → StateM (Array TokenState) Nat
  | [] => return next
  | c :: cs => do
    let rest ← buildText site next cs
    addState (.read site.token ⟨[(c.toNat, c.toNat)], false⟩ rest site.skip site.prec)

mutual
/-- States that read the pattern and go on to `next`; the result is the first of them. -/
def build (site : Site) (next : Nat) : Pattern → StateM (Array TokenState) Nat
  | .one set => addState (.read site.token set next site.skip site.prec)
  | .text s => buildText site next s.toList
  | .seq ps => buildSeq site next ps
  | .choice ps => buildChoice site next ps
  | .opt p => do
    let first ← build site next p
    addState (.split first next)
  | .plus p => do
    let loop ← addState (.split next next)
    let first ← build site loop p
    modify fun a => a.set! loop (.split first next)
    return first
  | .star p => do
    let loop ← addState (.split next next)
    let first ← build site loop p
    modify fun a => a.set! loop (.split first next)
    return loop
  | .ranked n p => build { site with prec := n } next p

/-- `build` for patterns in sequence. -/
def buildSeq (site : Site) (next : Nat) : List Pattern → StateM (Array TokenState) Nat
  | [] => return next
  | p :: ps => do
    let rest ← buildSeq site next ps
    build site rest p

/-- `build` for alternative patterns. -/
def buildChoice (site : Site) (next : Nat) : List Pattern → StateM (Array TokenState) Nat
  | [] => return next
  | [p] => build site next p
  | p :: ps => do
    let rest ← buildChoice site next ps
    let first ← build site next p
    addState (.split first rest)
end

/-- States reached from the pending ones without reading; `fuel` bounds the number of splits. -/
def closure (states : Array TokenState) : Nat → List Nat → Array Nat → Array Nat → Array Nat
  | 0, _, _, out => out
  | _, [], _, out => out
  | fuel + 1, s :: pending, seen, out =>
    if seen.contains s then closure states fuel pending seen out
    else match states[s]? with
      | some (.split l r) => closure states fuel (l :: r :: pending) (seen.push s) out
      | some _ => closure states fuel pending (seen.push s) (out.push s)
      | none => closure states fuel pending seen out

/-- The automaton for the tokens of a grammar. White space in front of a token is any run of the
grammar's separators. -/
def ofProductions (g : Productions) : TokenAutomaton := Id.run do
  let mut states : Array TokenState := #[]
  let mut starts : Array (Option Nat) := #[]
  let mut specificity : Array Nat := #[]
  for (t?, i) in g.tokens.zipIdx do
    match t? with
    | none =>
      starts := starts.push none
      specificity := specificity.push 0
    | some t =>
      let make : StateM (Array TokenState) Nat := do
        let done ← addState (.complete i t.precedence)
        let first ← build ⟨i, false, t.precedence⟩ done t.pattern
        if t.immediate || g.separators.isEmpty then return first
        else build ⟨i, true, 0⟩ first (.star (.choice g.separators))
      let (first, states') := make.run states
      states := states'
      starts := starts.push (some first)
      specificity := specificity.push t.specificity
  let closures := (Array.range states.size).map fun s =>
    closure states (2 * states.size + 2) [s] #[] #[]
  let rank := g.succession.zipIdx.foldl (fun (r : Array Nat) (s, i) => r.setIfInBounds s i)
    (Array.replicate g.tokenCount 0)
  return { states, closures, starts, specificity, rank }

/-- Set of states of a run, in increasing order. -/
abbrev Run := Array Nat

/-- Adds states to a run. -/
def insertAll (run new : Run) : Run :=
  new.foldl (fun r s => if r.contains s then r else r.push s) run

/-- The run before anything is read, for the tokens in the bit set. -/
def start (a : TokenAutomaton) (allowed : Nat) : Run :=
  let states := a.starts.zipIdx.foldl (fun r (s?, i) =>
    match s? with
    | some s => if allowed.testBit i then insertAll r (a.closures.getD s #[]) else r
    | none => r) #[]
  states.qsort (· < ·)

/-- Whether the token `x` is preferred to `y` when both are complete at one place. -/
def prefers (a : TokenAutomaton) (x y : Nat × Int) : Bool :=
  if x.2 != y.2 then x.2 > y.2
  else
    let sx := a.specificity.getD x.1 0
    let sy := a.specificity.getD y.1 0
    if sx != sy then sx > sy else a.rank.getD x.1 0 < a.rank.getD y.1 0

/-- The preferred complete token of a run. -/
def complete? (a : TokenAutomaton) (run : Run) : Option (Nat × Int) :=
  run.foldl (fun (best : Option (Nat × Int)) (s : Nat) =>
    match a.states[s]? with
    | some (.complete t p) =>
      match best with
      | some b => if a.prefers b (t, p) then best else some (t, p)
      | none => some (t, p)
    | _ => best) none

/-- Whether the run can still skip white space. -/
def skips (a : TokenAutomaton) (run : Run) : Bool :=
  run.any fun s => match a.states[s]? with
    | some (.read _ _ _ skip _) => skip
    | _ => false

/-- A step of a run: where it leads, whether the character is skipped, and its precedence. -/
structure Move where
  run : Run
  skip : Bool
  prec : Int
  deriving Inhabited

/-- The token to which a state belongs. -/
def tokenOf (a : TokenAutomaton) (s : Nat) : Option Nat :=
  match a.states[s]? with
  | some (.complete t _) | some (.read t _ _ _ _) => some t
  | _ => none

/-- The step of a run on a character. With a token already complete, the step is taken only if it
has higher precedence, or the same precedence and is not about white space, and, while the run can
skip white space, still concerns the complete token. -/
def move? (a : TokenAutomaton) (run : Run) (c : Char) : Option Move :=
  let moves := run.foldl (fun (m : Option Move) (s : Nat) =>
    match a.states[s]? with
    | some (.read _ set next skip prec) =>
      if set.has c then
        let target := a.closures.getD next #[]
        match m with
        | some m => some ⟨insertAll m.run target, m.skip && skip, max m.prec prec⟩
        | none => some ⟨target, skip, prec⟩
      else m
    | _ => m) none
  match moves with
  | none => none
  | some m =>
    let m := { m with run := m.run.qsort (· < ·) }
    match a.complete? run with
    | none => some m
    | some (t, p) =>
      if m.prec < p then none
      else if m.prec = p then
        if m.skip then none
        else if a.skips run && !(m.run.any fun s => a.tokenOf s == some t) then none
        else some m
      else some m

end TokenAutomaton

end CodeGraph.Grammar
