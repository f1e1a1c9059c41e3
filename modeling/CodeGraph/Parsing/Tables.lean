import CodeGraph.Parsing.Merging

/-! # Parse tables

Everything that parsing by a grammar needs, computed once: what each state does with each token,
where it goes after each rule, and the tokens that are looked for in it. Tokens are looked for
together in as few ways as possible: states share a set of tokens as long as no two tokens in it
would come into each other's way. -/

namespace CodeGraph.Parsing

open CodeGraph.Grammar

/-- What a state does with a token. -/
structure Actions where
  /-- The items to reduce, in order. -/
  reduces : Array Nat := #[]
  /-- The state after the token is shifted. -/
  shift : Option Nat := none
  /-- The shift only prolongs a repetition that is also reduced. -/
  repetition : Bool := false
  /-- The token is taken as one that may stand anywhere. -/
  extra : Bool := false
  /-- The text is complete. -/
  accept : Bool := false
  deriving Inhabited

/-- A parse state. -/
structure State where
  /-- Numbers of the actions, by token; `0` where there are none. -/
  actions : Array Nat
  /-- The state after each rule; `0` where there is none. -/
  gotos : Array Nat
  /-- Tokens with actions. -/
  tokens : TokenSet
  /-- Tokens looked for by their patterns; keywords are looked for as words. -/
  lexical : TokenSet
  deriving Inhabited

/-- The state in which unexpected text is skipped. -/
def errorState : Nat := 0

/-- The state before the text. -/
def startState : Nat := 1

/-- A grammar with its parse tables. -/
structure Tables extends Basis where
  states : Array State
  actions : Array Actions
  deriving Inhabited

namespace Tables

/-- The tokens that a state looks for by their patterns, if it looks for nothing else. -/
def lexicalSet (l : Basis) (tokens : TokenSet) : TokenSet :=
  let own := TokenSet.minus tokens l.scannedSet
  let words := own &&& l.keywordSet
  if words == 0 then own else TokenSet.minus own words ||| (1 <<< l.grammar.word)

/-- For each token, the tokens together with which it is not to be looked for. -/
def hindered (l : Basis) (t : TokenTraits) : Array TokenSet :=
  let lexical := (List.range l.tokenCount).filter fun i => (l.grammar.tokens.getD i none).isSome
  (Array.range l.tokenCount).map fun i =>
    if (l.grammar.tokens.getD i none).isNone then 0
    else TokenSet.ofList (lexical.filter fun j =>
      let o := TokenTraits.overlapOf t.overlap i j
      o.clashes || o.shorter || (!(t.beside.getD i 0).testBit j && o.shared))

/-- Whether two sets of tokens can be looked for as one. -/
def compatible (hindered : Array TokenSet) (s t : TokenSet) : Bool :=
  (TokenSet.toList (TokenSet.minus s t)).all (fun i => hindered.getD i 0 &&& t == 0) &&
    (TokenSet.toList (TokenSet.minus t s)).all fun i => hindered.getD i 0 &&& s == 0

/-- Puts a set to the first one with which it can be looked for, or at the end. The result is its
place. -/
def place (hindered : Array TokenSet) (shared : Array TokenSet) (s : TokenSet) :
    Array TokenSet × Nat :=
  match shared.findIdx? (compatible hindered · s) with
  | some i => (shared.modify i (· ||| s), i)
  | none => (shared.push s, shared.size)

/-- The tokens that each state looks for, given those that have actions there. -/
def lexicalSets (l : Basis) (t : TokenTraits) (rows : Array Row) : Array TokenSet := Id.run do
  let hindered := hindered l t
  let mut shared : Array TokenSet := #[]
  let mut known : Std.HashMap TokenSet Nat := {}
  let mut places : Array Nat := #[]
  for r in rows do
    let own := lexicalSet l r.tokens
    match known[own]? with
    | some i => places := places.push i
    | none =>
      let (shared', i) := place hindered shared own
      shared := shared'
      known := known.insert own i
      places := places.push i
  let sets := shared
  return places.map fun i => sets.getD i 0

/-- The actions of a form with the state after its shift. -/
def actionsOf (f : Form) (target : Nat) : Actions :=
  { reduces := f.reduces, shift := if f.shift then some target else none
    repetition := f.repetition, extra := f.extra, accept := f.accept }

/-- The row of the state that skips text: it knows the tokens that are looked for there, and does
nothing with them. -/
def skippingRow (recovering : TokenSet) (r : Row) : Row :=
  { r with tokens := recovering ||| r.tokens }

/-- The tables of a grammar. -/
def ofBasis (l : Basis) : Tables := Id.run do
  let collection := Collection.ofBasis l
  let traits := TokenTraits.ofCollection l collection
  let merged := mergedRows collection (Partition.ofCollection collection traits)
  let rows := arranged (passUnits l collection.forms merged)
  let rows := rows.modify errorState (skippingRow traits.recovering)
  let lexical := lexicalSets l traits rows
  let mut actions : Array Actions := #[{}]
  let mut ids : Std.HashMap (Nat × Nat) Nat := {}
  let mut states : Array State := #[]
  for (r, i) in rows.zipIdx do
    let mut own : Array Nat := Array.replicate l.tokenCount 0
    for e in r.entries do
      match ids[(e.form, e.target)]? with
      | some a => own := own.set! e.token a
      | none =>
        own := own.set! e.token actions.size
        ids := ids.insert (e.form, e.target) actions.size
        actions := actions.push (actionsOf (collection.forms.getD e.form default) e.target)
    let gotos := r.gotos.foldl (fun (g : Array Nat) (x, s) => g.set! (x - l.tokenCount) s)
      (Array.replicate l.grammar.nonterminals.size 0)
    states := states.push { actions := own, gotos, tokens := r.tokens, lexical := lexical.getD i 0 }
  return { toBasis := l, states, actions }

/-- The tables of a grammar with its scanner. -/
def ofGrammar (g : CodeGraph.Grammar) (scanner : Scanner) : Tables :=
  ofBasis (Basis.ofGrammar g scanner)

/-- The state of a number. -/
def stateAt (l : Tables) (s : Nat) : State := l.states.getD s default

/-- What a state does with a token. -/
def actionsAt (l : Tables) (s token : Nat) : Actions :=
  l.actions.getD ((l.stateAt s).actions.getD token 0) {}

/-- Whether a state knows a token. -/
def knows (l : Tables) (s token : Nat) : Bool := (l.stateAt s).tokens.testBit token

/-- The state after a token or a rule. A token that is only taken as an extra leaves the state. -/
def next? (l : Tables) (s x : Nat) : Option Nat :=
  if x < l.tokenCount then
    let a := l.actionsAt s x
    if a.extra then some s else a.shift
  else match (l.stateAt s).gotos.getD (x - l.tokenCount) 0 with
    | 0 => none
    | t => some t

/-- The tokens of the scanner that a state knows. -/
def scanned (l : Tables) (s : Nat) : TokenSet := (l.stateAt s).tokens &&& l.externalSet

end Tables

end CodeGraph.Parsing
