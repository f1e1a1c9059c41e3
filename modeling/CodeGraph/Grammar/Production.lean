import Std.Data.HashMap
import CodeGraph.Grammar.Rule

/-! # Productions

The rules of a grammar as context-free productions. Tokens are numbered in the order in which the
rules mention them, after the end of the text and the word token; the tokens of the external
scanner follow, and then the rules. A repetition becomes a rule of its own that may also join two
of its repetitions, so that long repetitions need not nest on one side. -/

namespace CodeGraph.Grammar

/-- The place of one symbol in a production. -/
structure Step where
  symbol : Nat
  prec : Precedence := .none
  assoc : Option Assoc := none
  /-- Node name under which the symbol appears here, and whether that node is named. -/
  rename : Option (String × Bool) := none
  field : Option String := none
  deriving BEq, Hashable, Repr, Inhabited

/-- One way to derive a rule. -/
structure Production where
  steps : List Step
  weight : Int := 0
  deriving BEq, Hashable, Repr, Inhabited

/-- What the tree shows of a symbol. -/
structure SymbolInfo where
  name : String
  visible : Bool
  named : Bool
  deriving BEq, Repr, Inhabited

/-- A rule given by its productions. -/
structure Nonterminal where
  name : String
  /-- Introduced by a repetition. -/
  auxiliary : Bool
  productions : List Production
  deriving Repr, Inhabited

/-- A grammar whose rules are productions over numbered symbols: the tokens first, the end of the
text being `0`, then the rules. -/
structure Productions where
  symbols : Array SymbolInfo
  /-- The lexical tokens, by symbol; the end of the text and external tokens have none. -/
  tokens : Array (Option Token)
  /-- The symbol of each external token, in the scanner's order. -/
  externals : Array Nat
  nonterminals : Array Nonterminal
  inlined : Array Bool
  supertypes : Array Bool
  /-- Tokens that may stand between any two tokens. -/
  extras : List Nat
  /-- Patterns skipped in front of a token. -/
  separators : List Pattern
  word : Nat
  orders : List (List Rank)
  conflicts : List (List Nat)
  /-- All symbols in the order in which states are made for them: tokens known to the scanner alone,
  the end of the text, the other tokens as the rules mention them, and the rules. -/
  succession : Array Nat
  /-- Fields that a rule without a node of its own hands to the node above it, by symbol. -/
  handed : Array (List String)
  start : Nat
  deriving Inhabited

namespace Productions

/-- Number of tokens, the end of the text included. -/
def tokenCount (g : Productions) : Nat := g.tokens.size

end Productions

/-! ## Tokens in the order of their first mention -/

mutual
/-- Every token of the rule, in order, with repetitions. -/
def Rule.tokens : Rule → List Token
  | .blank | .ref _ => []
  | .token t => [t]
  | .seq rs | .choice rs => Rule.tokensOfAll rs
  | .many1 r | .field _ r | .renamed _ _ r | .prec _ _ r | .weight _ r => r.tokens

/-- The tokens of several rules, in order. -/
def Rule.tokensOfAll : List Rule → List Token
  | [] => []
  | r :: rs => r.tokens ++ Rule.tokensOfAll rs
end

/-! ## Repetitions as rules -/

/-- Rules made for repetitions so far: the repeated rule and the name that stands for it. -/
structure Repeats where
  known : Std.HashMap Rule String := {}
  made : Array (String × Rule) := #[]

mutual
/-- Replaces each repetition by a reference to a rule made for it; equal repetitions share one. -/
def Rule.liftRepeats (owner : String) : Rule → StateM (Repeats × Nat) Rule
  | .seq rs => return .seq (← Rule.liftRepeatsAll owner rs)
  | .choice rs => return .choice (← Rule.liftRepeatsAll owner rs)
  | .field n r => return .field n (← r.liftRepeats owner)
  | .renamed n b r => return .renamed n b (← r.liftRepeats owner)
  | .prec p a r => return .prec p a (← r.liftRepeats owner)
  | .weight n r => return .weight n (← r.liftRepeats owner)
  | .many1 r => do
    let inner ← r.liftRepeats owner
    let (reps, count) ← get
    match reps.known[inner]? with
    | some name => return .ref name
    | none =>
      let name := owner ++ "_repeat" ++ toString (count + 1)
      let body := Rule.choice [.seq [.ref name, .ref name], inner]
      set ({ known := reps.known.insert inner name, made := reps.made.push (name, body) : Repeats }, count + 1)
      return .ref name
  | r => return r

/-- `Rule.liftRepeats` for each rule of a list. -/
def Rule.liftRepeatsAll (owner : String) : List Rule → StateM (Repeats × Nat) (List Rule)
  | [] => return []
  | r :: rs => return (← r.liftRepeats owner) :: (← Rule.liftRepeatsAll owner rs)
end

/-! ## Alternatives as productions -/

mutual
/-- The choice-free rules of which the rule is the choice, in order. -/
def Rule.alternatives : Rule → List Rule
  | .seq rs => Rule.sequences [.blank] rs
  | .choice rs => Rule.alternativesOfAll rs
  | .field n r => r.alternatives.map (.field n)
  | .renamed n b r => r.alternatives.map (.renamed n b)
  | .prec p a r => r.alternatives.map (.prec p a)
  | .weight n r => r.alternatives.map (.weight n)
  | r => [r]

/-- The alternatives of several rules, one list after the other. -/
def Rule.alternativesOfAll : List Rule → List Rule
  | [] => []
  | r :: rs => r.alternatives ++ Rule.alternativesOfAll rs

/-- Each of the given beginnings continued by each alternative of the rules in turn. -/
def Rule.sequences (done : List Rule) : List Rule → List Rule
  | [] => done
  | r :: rs =>
    let next := r.alternatives
    Rule.sequences (done.flatMap fun d => next.map fun n => Rule.seq [d, n]) rs
end

/-- What surrounds the place at which a production is being built. -/
structure Surroundings where
  prec : Precedence := .none
  assoc : Option Assoc := none
  rename : Option (String × Bool) := none
  field : Option String := none

/-- Sets the last step of a production that is built backwards. -/
def relast (f : Step → Step) : List Step → List Step
  | [] => []
  | s :: ss => f s :: ss

mutual
/-- Adds the symbols of a choice-free rule to a production built backwards. A precedence covers the
gap after each of its symbols, and after the last one only at the end of the production. The
result says whether a symbol was added. -/
def Rule.flattenInto (symbol : Rule → Nat) (env : Surroundings) (atEnd : Bool) :
    Rule → List Step × Int → (List Step × Int) × Bool
  | .seq rs, acc => Rule.flattenAll symbol env atEnd rs acc
  | .prec p a r, acc =>
    let inner := { env with
      prec := if p == .none then env.prec else p
      assoc := if a.isSome then a else env.assoc }
    let ((steps, w), added) := r.flattenInto symbol inner atEnd acc
    if added && !atEnd then
      let steps := if p == .none then steps else relast (fun s => { s with prec := env.prec }) steps
      let steps := if a.isSome then relast (fun s => { s with assoc := env.assoc }) steps else steps
      ((steps, w), added)
    else ((steps, w), added)
  | .field n r, acc => r.flattenInto symbol { env with field := some n } atEnd acc
  | .renamed n b r, acc => r.flattenInto symbol { env with rename := some (n, b) } atEnd acc
  | .weight n r, (steps, w) =>
    r.flattenInto symbol env atEnd (steps, if n.natAbs > w.natAbs then n else w)
  | .blank, acc | .choice _, acc | .many1 _, acc => (acc, false)
  | r, (steps, w) =>
    (({ symbol := symbol r, prec := env.prec, assoc := env.assoc, rename := env.rename,
        field := env.field : Step } :: steps, w), true)

/-- `Rule.flattenInto` for the members of a sequence. -/
def Rule.flattenAll (symbol : Rule → Nat) (env : Surroundings) (atEnd : Bool) :
    List Rule → List Step × Int → (List Step × Int) × Bool
  | [], acc => (acc, false)
  | [r], acc => r.flattenInto symbol env atEnd acc
  | r :: rs, acc =>
    let (acc, a) := r.flattenInto symbol env false acc
    let (acc, b) := Rule.flattenAll symbol env atEnd rs acc
    (acc, a || b)
end

/-- The productions of a rule without repetitions. -/
def Rule.productions (symbol : Rule → Nat) (r : Rule) : List Production :=
  let ps := r.alternatives.map fun alt =>
    let ((steps, w), _) := alt.flattenInto symbol {} true ([], 0)
    { steps := steps.reverse, weight := w : Production }
  (ps.foldl (fun (acc : Array Production × Std.HashMap Production Unit) p =>
    if acc.2.contains p then acc else (acc.1.push p, acc.2.insert p ())) (#[], {})).1.toList

/-! ## Default names -/

/-- How often a symbol takes each other name, and whether it ever keeps its own. -/
structure NameUse where
  own : Bool := false
  others : List ((String × Bool) × Nat) := []
  deriving Inhabited

/-- Counts one more use of a name. -/
def NameUse.count (u : NameUse) (n : String × Bool) : NameUse :=
  if u.others.any (·.1 == n) then
    { u with others := u.others.map fun e => if e.1 == n then (n, e.2 + 1) else e }
  else { u with others := u.others ++ [(n, 1)] }

/-- The name that a symbol takes most often, the first of equals, if it never keeps its own. -/
def NameUse.default? (u : NameUse) : Option (String × Bool) :=
  if u.own then none
  else (u.others.foldl (fun (best : Option ((String × Bool) × Nat)) e =>
    match best with
    | some b => if e.2 > b.2 then some e else best
    | none => some e) none).map (·.1)

/-- The default names of the symbols. -/
def defaultNames (count : Nat) (inlined : Array Bool) (extras : List Nat)
    (nonterminals : Array Nonterminal) : Array (Option (String × Bool)) := Id.run do
  let mut uses : Array NameUse := Array.replicate count {}
  for v in nonterminals do
    for p in v.productions do
      for s in p.steps do
        if !(inlined.getD s.symbol false) then
          uses := uses.modify s.symbol fun u =>
            match s.rename with
            | some n => u.count n
            | none => { u with own := true }
  for e in extras do
    uses := uses.modify e fun u => { u with own := true }
  return uses.map NameUse.default?

/-- Drops each name that is the symbol's default name, unless another production of the same rule
needs that name at the same place for a different symbol. -/
def dropDefaults (defaults : Array (Option (String × Bool))) (v : Nonterminal) : Nonterminal :=
  let production (p : Production) : Production :=
    let others := v.productions.filter (· != p)
    { p with steps := p.steps.zipIdx.map fun (s, j) =>
        if s.rename.isSome && s.rename == defaults.getD s.symbol none then
          let needed := others.any fun q =>
            match q.steps[j]? with
            | some t => t.rename == s.rename && defaults.getD t.symbol none != s.rename
            | none => false
          if needed then s else { s with rename := none }
        else s }
  { v with productions := v.productions.map production }

/-! ## Fields of rules without a node -/

/-- The fields of each symbol whose rule has no node of its own: those in its productions and those
handed on by the rules in them that leave no node there either. -/
def handedFields (tokenCount : Nat) (symbols : Array SymbolInfo) (supertypes : Array Bool)
    (defaults : Array (Option (String × Bool))) (nonterminals : Array Nonterminal) :
    Array (List String) := Id.run do
  let add (known : List String) (f : String) : List String := if known.contains f then known else known ++ [f]
  let mut fields : Array (List String) := Array.replicate symbols.size []
  for _ in [0:symbols.size] do
    let mut changed := false
    for (v, i) in nonterminals.zipIdx do
      let old := fields.getD (tokenCount + i) []
      let mut new := old
      for p in v.productions do
        for s in p.steps do
          match s.field with
          | some f => new := add new f
          | none => pure ()
          let shown := s.rename.isSome || (defaults.getD s.symbol none).isSome
            || (symbols.getD s.symbol default).visible || supertypes.getD s.symbol false
          if !shown then new := (fields.getD s.symbol []).foldl add new
      if new.length != old.length then
        fields := fields.set! (tokenCount + i) new
        changed := true
    if !changed then break
  return fields.zipIdx.map fun (fs, i) => if (symbols.getD i default).visible then [] else fs

/-! ## The whole grammar -/

/-- Names that begin with an underscore do not appear in the tree. -/
def isHiddenName (s : String) : Bool := s.startsWith "_"

/-- The productions of a grammar. -/
def Productions.ofGrammar (g : Grammar) : Productions := Id.run do
  -- tokens by first mention, with the number of mentions
  let mut tokens : Array Token := #[]
  let mut counts : Std.HashMap Token Nat := {}
  let externalTokens := Rule.tokensOfAll g.externals
  for t in Rule.tokensOfAll (g.rules.map (·.2)) ++ externalTokens do
    match counts[t]? with
    | some n => counts := counts.insert t (n + 1)
    | none =>
      tokens := tokens.push t
      counts := counts.insert t 1
  -- a rule that is one token of its own names that token
  let mut names : Std.HashMap Token String := {}
  let mut rules : Array (String × Rule) := #[]
  let mut first := true
  for (name, rule) in g.rules do
    match rule with
    | .token t =>
      if !first && counts.getD t 0 == 1 && (t.literal.isNone || !isHiddenName name) then
        names := names.insert t name
      else rules := rules.push (name, rule)
    | _ => rules := rules.push (name, rule)
    first := false
  -- numbering of the tokens
  let isWord (t : Token) := names.getD t "" == g.word
  let ordered := tokens.filter isWord ++ tokens.filter (fun t => !isWord t)
  let mut symbols : Array SymbolInfo := #[⟨"end", false, true⟩]
  let mut lexical : Array (Option Token) := #[none]
  let mut byName : Std.HashMap String Nat := {}
  let mut byToken : Std.HashMap Token Nat := {}
  for t in ordered do
    let id := symbols.size
    byToken := byToken.insert t id
    lexical := lexical.push (some t)
    match names[t]? with
    | some n =>
      byName := byName.insert n id
      symbols := symbols.push ⟨n, !isHiddenName n, true⟩
    | none => symbols := symbols.push ⟨t.literal.getD "", t.literal.isSome, false⟩
  let mut externals : Array Nat := #[]
  for e in g.externals do
    match e with
    | .token t => externals := externals.push (byToken.getD t 0)
    | .ref n =>
      match byName[n]? with
      | some id => externals := externals.push id
      | none =>
        let id := symbols.size
        symbols := symbols.push ⟨n, !isHiddenName n, true⟩
        lexical := lexical.push none
        byName := byName.insert n id
        externals := externals.push id
    | _ => pure ()
  let tokenCount := symbols.size
  -- repetitions
  let mut reps : Repeats := {}
  let mut bodies : Array (String × Rule × Bool) := #[]
  for (name, rule) in rules do
    match rule with
    | .many1 r =>
      if isHiddenName name then
        let (inner, reps', _) := (r.liftRepeats name).run (reps, 0)
        reps := reps'
        bodies := bodies.push (name, .choice [.seq [.ref name, .ref name], inner], true)
      else
        let (body, reps', _) := (rule.liftRepeats name).run (reps, 0)
        reps := reps'
        bodies := bodies.push (name, body, false)
    | _ =>
      let (body, reps', _) := (rule.liftRepeats name).run (reps, 0)
      reps := reps'
      bodies := bodies.push (name, body, false)
  bodies := bodies ++ reps.made.map fun (n, r) => (n, r, true)
  -- numbering of the rules
  for (name, _, auxiliary) in bodies do
    byName := byName.insert name symbols.size
    let hidden := auxiliary || isHiddenName name || g.supertypes.contains name
    symbols := symbols.push ⟨name, !hidden, !auxiliary⟩
  let symbol (r : Rule) : Nat :=
    match r with
    | .token t => byToken.getD t 0
    | .ref n => byName.getD n 0
    | _ => 0
  let mut nonterminals : Array Nonterminal := #[]
  for (name, body, auxiliary) in bodies do
    nonterminals := nonterminals.push ⟨name, auxiliary, body.productions symbol⟩
  let flags (names : List String) : Array Bool :=
    names.foldl (fun a n => match byName[n]? with | some i => a.set! i true | none => a)
      (Array.replicate symbols.size false)
  let inlined := flags g.inlined
  let supertypes := flags g.supertypes
  -- what may stand between tokens
  let mut extras : List Nat := []
  let mut separators : List Pattern := []
  for e in g.extras do
    match e with
    | .ref n => extras := extras ++ [byName.getD n 0]
    | .token t =>
      match byToken[t]? with
      | some id => extras := extras ++ [id]
      | none => separators := separators ++ [t.pattern]
    | _ => pure ()
  -- the order of the symbols
  let mentioned := tokens.map fun t => byToken.getD t 0
  let scanned := (Array.range tokenCount).filter fun i => i != 0 && (lexical.getD i none).isNone
  let succession := scanned ++ #[0] ++ mentioned ++ (Array.range nonterminals.size).map (· + tokenCount)
  -- default names
  let defaults := defaultNames symbols.size inlined extras nonterminals
  nonterminals := nonterminals.map (dropDefaults defaults)
  let handed := handedFields tokenCount symbols supertypes defaults nonterminals
  symbols := symbols.zipIdx.map fun (s, i) =>
    match defaults.getD i none with
    | some (n, named) => ⟨n, true, named⟩
    | none => s
  return {
    symbols, tokens := lexical, externals, nonterminals, inlined, supertypes
    extras, separators, word := byName.getD g.word 0, orders := g.orders
    conflicts := g.conflicts.map fun c => c.filterMap fun n => byName[n]?
    succession, handed, start := tokenCount }

end CodeGraph.Grammar
