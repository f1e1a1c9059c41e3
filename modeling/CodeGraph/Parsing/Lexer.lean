import CodeGraph.Parsing.Stack

/-! # Reading one token

A token is read for a parse state. The external scanner is asked first, then the token automaton
with the tokens that the state allows. Where neither finds a token, both are tried again with every
token that may appear while text is skipped, and where that fails too, characters are passed over
until some token begins; what was passed over is one piece of unexpected text. -/

namespace CodeGraph.Parsing

open CodeGraph.Grammar

/-- A set of states of the token automaton that has been met, with the token that is complete in
it. -/
structure LexState where
  run : TokenAutomaton.Run
  complete : Option Nat
  deriving Inhabited

/-- The runs of the token automaton that have been computed. -/
structure LexMemo where
  states : Array LexState := #[]
  ids : Std.HashMap TokenAutomaton.Run Nat := {}
  starts : Std.HashMap TokenSet Nat := {}
  moves : Std.HashMap (Nat × UInt32) (Option (Nat × Bool)) := {}
  deriving Inhabited

/-- Computations that add to the memory of runs. -/
abbrev Lexing := StateM LexMemo

namespace Lexer

/-- The number of a run of the token automaton. -/
def internRun (l : Tables) (run : TokenAutomaton.Run) : Lexing Nat := do
  match (← get).ids[run]? with
  | some i => return i
  | none => modifyGet fun a =>
      let i := a.states.size
      let complete := (l.tokens.complete? run).map (·.1)
      (i, { a with states := a.states.push ⟨run, complete⟩, ids := a.ids.insert run i })

/-- The run before anything is read, for a set of tokens. -/
def startRun (l : Tables) (allowed : TokenSet) : Lexing Nat := do
  match (← get).starts[allowed]? with
  | some i => return i
  | none =>
    let i ← internRun l (l.tokens.start allowed)
    modify fun a => { a with starts := a.starts.insert allowed i }
    return i

/-- The run after a character, and whether the character is skipped. -/
def moveRun (l : Tables) (r : Nat) (c : Char) : Lexing (Option (Nat × Bool)) := do
  match (← get).moves[(r, c.val)]? with
  | some m => return m
  | none =>
    let state := (← get).states.getD r default
    let m ← match l.tokens.move? state.run c with
      | some m => do
        let i ← internRun l m.run
        pure (some (i, m.skip))
      | none => pure none
    modify fun a => { a with moves := a.moves.insert (r, c.val) m }
    return m

/-- Outcome of a run: the token found with its extent, and how far the run came. -/
structure Outcome where
  token : Option Nat
  start : Position
  stop : Position
  reached : Position
  deriving Inhabited

/-- Passes over a byte order mark at the very start of the text. -/
def skipMark (text : String) (p : Position) : Position :=
  if p.byte == 0 && p.peek text == some '\uFEFF' then p.after '\uFEFF' else p

/-- The longest token of the set at a position, the end of the text included. -/
def run (l : Tables) (allowed : Nat) (text : String) (from_ : Position) : Lexing Outcome := do
  let begin_ := skipMark text from_
  let mut state ← startRun l allowed
  let mut pos := begin_
  let mut start := begin_
  let mut stop := begin_
  let mut token : Option Nat := none
  let mut endAllowed := allowed.testBit 0
  for _ in [0:text.utf8ByteSize + 2] do
    match ((← get).states.getD state default).complete with
    | some t =>
      token := some t
      stop := pos
    | none => pure ()
    match pos.peek text with
    | none =>
      if endAllowed then
        token := some 0
        stop := pos
      break
    | some c =>
      match ← moveRun l state c with
      | none => break
      | some (next, skip) =>
        pos := pos.after c
        if skip then start := pos
        endAllowed := endAllowed && skip
        state := next
  if token.isNone then stop := pos
  return { token, start := if stop.byte < start.byte then stop else start, stop, reached := pos }

/-- The next token for a state, as a leaf. `advanced` says whether the reading has read text since
it last went wrong; if not, an empty external token that changes nothing is no progress and is
passed over. -/
def lex (l : Tables) (text : String) (state : Nat) (from_ : Position) (scan : Option ScanState)
    (advanced : Bool) : Lexing Subtree := do
  let mut lenient := state == errorState
  let mut allowed := (l.stateAt state).lexical
  let mut scannable := l.scanned state
  let mut current := from_
  let mut skipped := false
  let mut errorStart := from_
  let mut errorStop := from_
  let mut external : Option Scanned := none
  let mut internal : Option Outcome := none
  for _ in [0:2 * text.utf8ByteSize + 4] do
    if scannable != 0 then
      let scanned := scannable
      let valid (i : Nat) : Bool := scanned.testBit (l.grammar.externals.getD i 0)
      match l.scanner scan valid text (skipMark text current) with
      | some found =>
        let idle ← if found.stop.byte ≤ current.byte && found.state == scan then do
            let symbol := l.grammar.externals.getD found.token 0
            pure (lenient || !advanced || l.next? state symbol == some state)
          else pure false
        if !idle then
          external := some found
          break
      | none => pure ()
    let outcome ← run l allowed text current
    if outcome.token.isSome then
      internal := some outcome
      break
    if !lenient then
      lenient := true
      allowed := (l.stateAt errorState).lexical
      scannable := l.scanned errorState
      current := from_
      continue
    if !skipped then
      skipped := true
      errorStart := outcome.start
      errorStop := outcome.start
    if outcome.reached.byte == errorStop.byte then
      match outcome.reached.peek text with
      | none => break
      | some c => current := outcome.reached.after c
    else current := outcome.reached
    errorStop := current
  if skipped then
    return { symbol := errorSymbol, before := from_, start := errorStart, stop := errorStop }
  match external with
  | some found =>
    return {
      symbol := l.grammar.externals.getD found.token 0
      before := from_, start := found.start, stop := found.stop
      scan := found.state, scanChanged := found.state != scan }
  | none =>
    let outcome := internal.getD { token := some 0, start := from_, stop := from_, reached := from_ }
    let found := outcome.token.getD 0
    let leaf : Subtree := {
      symbol := found, before := from_, start := outcome.start, stop := outcome.stop
      extra := found == 0 }
    if found == l.grammar.word && found != 0 then
      match l.keywords[Position.slice text outcome.start.byte outcome.stop.byte]? with
      | some k =>
        if l.knows state k then return { leaf with symbol := k, keyword := true }
        else return leaf
      | none => return leaf
    else return leaf

end Lexer

end CodeGraph.Parsing
