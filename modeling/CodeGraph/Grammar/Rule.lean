/-! # Grammar rules

A grammar is written as named rules over tokens. A token is a regular pattern over characters; a
rule combines tokens and other rules and may give parts of the match a field name, another node
name, or a precedence. Nothing here parses: a grammar is plain data, and the modules beside this
one turn it into productions, token automata and parse states. -/

namespace CodeGraph.Grammar

/-- A set of characters: inclusive ranges of code points, complemented when `negated`. -/
structure CharSet where
  ranges : List (Nat × Nat)
  negated : Bool := false
  deriving BEq, Hashable, Repr, Inhabited

namespace CharSet

/-- Membership of a code point. -/
def hasCode (s : CharSet) (n : Nat) : Bool :=
  (s.ranges.any fun r => r.1 ≤ n && n ≤ r.2) != s.negated

/-- Membership of a character. -/
def has (s : CharSet) (c : Char) : Bool := s.hasCode c.toNat

/-- The characters of a string. -/
def of (text : String) : CharSet := ⟨text.toList.map fun c => (c.toNat, c.toNat), false⟩

/-- The characters from `a` to `b`. -/
def range (a b : Char) : CharSet := ⟨[(a.toNat, b.toNat)], false⟩

/-- The union of two sets given by their ranges. -/
def union (s t : CharSet) : CharSet := ⟨s.ranges ++ t.ranges, false⟩

instance : Append CharSet := ⟨union⟩

/-- The characters that are not in the set. -/
def compl (s : CharSet) : CharSet := { s with negated := !s.negated }

/-- Decimal digits. -/
def digit : CharSet := range '0' '9'

/-- Hexadecimal digits. -/
def hex : CharSet := digit ++ range 'a' 'f' ++ range 'A' 'F'

/-- White space in a pattern: the characters with the Unicode property `White_Space`. -/
def space : CharSet :=
  ⟨[(9, 13), (32, 32), (0x85, 0x85), (0xA0, 0xA0), (0x1680, 0x1680), (0x2000, 0x200A),
    (0x2028, 0x2029), (0x202F, 0x202F), (0x205F, 0x205F), (0x3000, 0x3000)], false⟩

/-- Every character except the line feed. -/
def notNewline : CharSet := (of "\n").compl

end CharSet

/-- A regular pattern over characters. -/
inductive Pattern where
  /-- One character of the set. -/
  | one (set : CharSet)
  /-- Exactly this text. -/
  | text (s : String)
  /-- The patterns one after the other. -/
  | seq (ps : List Pattern)
  /-- Any one of the patterns. -/
  | choice (ps : List Pattern)
  /-- The pattern any number of times. -/
  | star (p : Pattern)
  /-- The pattern at least once. -/
  | plus (p : Pattern)
  /-- The pattern or nothing. -/
  | opt (p : Pattern)
  /-- The pattern with the given lexical precedence. -/
  | ranked (n : Int) (p : Pattern)
  deriving BEq, Hashable, Repr, Inhabited

namespace Pattern

/-- The pattern `n` times. -/
def times (n : Nat) (p : Pattern) : Pattern := .seq (List.replicate n p)

/-- A run of one or more characters of the set. -/
def some (s : CharSet) : Pattern := .plus (.one s)

/-- A run of zero or more characters of the set. -/
def any (s : CharSet) : Pattern := .star (.one s)

end Pattern

/-- A token: its pattern with the data that settles which of two matching tokens is taken. -/
structure Token where
  pattern : Pattern
  /-- The text of a token that is a fixed string; such a token is an anonymous node. -/
  literal : Option String := none
  /-- An immediate token admits no skipped white space in front of it. -/
  immediate : Bool := false
  /-- Declared lexical precedence. -/
  precedence : Int := 0
  deriving BEq, Hashable, Repr, Inhabited

/-- Preference between tokens of one precedence: fixed strings over patterns, and immediate
tokens over others. -/
def Token.specificity (t : Token) : Nat :=
  (if t.literal.isSome then 2 else 0) + (if t.immediate then 1 else 0)

/-- How tightly a rule binds: not said, a number, or a named level. -/
inductive Precedence where
  | none
  | level (n : Int)
  | named (s : String)
  deriving BEq, Hashable, Repr, Inhabited

/-- Side to which a repeated operator groups. -/
inductive Assoc where
  | left
  | right
  deriving BEq, Hashable, Repr, Inhabited

/-- The right-hand side of a grammar rule. -/
inductive Rule where
  /-- The empty match. -/
  | blank
  /-- A token. -/
  | token (t : Token)
  /-- Another rule, or an external token, by name. -/
  | ref (name : String)
  /-- The rules one after the other. -/
  | seq (rs : List Rule)
  /-- Any one of the rules. -/
  | choice (rs : List Rule)
  /-- The rule at least once. -/
  | many1 (r : Rule)
  /-- The rule, its nodes reached under a field name. -/
  | field (name : String) (r : Rule)
  /-- The rule under another node name. -/
  | renamed (name : String) (named : Bool) (r : Rule)
  /-- The rule with a precedence and perhaps an associativity. -/
  | prec (p : Precedence) (assoc : Option Assoc) (r : Rule)
  /-- The rule with a weight that chooses between whole parses. -/
  | weight (n : Int) (r : Rule)
  deriving BEq, Hashable, Repr, Inhabited

namespace Rule

/-- A fixed string. -/
def str (s : String) : Rule := .token { pattern := .text s, literal := some s }

/-- A token given by a pattern. -/
def pat (p : Pattern) : Rule := .token { pattern := p }

/-- A token given by a pattern that must follow at once. -/
def adjacent (p : Pattern) (precedence : Int := 0) : Rule :=
  .token { pattern := p, immediate := true, precedence }

/-- A fixed string that must follow at once. -/
def adjacentStr (s : String) : Rule :=
  .token { pattern := .text s, literal := some s, immediate := true }

/-- The rule or nothing. -/
def opt (r : Rule) : Rule := .choice [r, .blank]

/-- The rule any number of times. -/
def many (r : Rule) : Rule := .choice [.many1 r, .blank]

/-- One or more of the rule with a separator between them. -/
def sepBy1 (sep r : Rule) : Rule := .seq [r, many (.seq [sep, r])]

/-- One or more of the rule with commas between them. -/
def commaSep1 (r : Rule) : Rule := sepBy1 (str ",") r

/-- Any number of the rule with commas between them. -/
def commaSep (r : Rule) : Rule := opt (commaSep1 r)

/-- A node of another name. -/
def named (name : String) (r : Rule) : Rule := .renamed name true r

/-- Grouping to the left, no precedence. -/
def left (r : Rule) : Rule := .prec (.level 0) (some .left) r

/-- Grouping to the right, no precedence. -/
def right (r : Rule) : Rule := .prec (.level 0) (some .right) r

end Rule

/-- An entry of a precedence order: a named level, or every rule of one name. -/
inductive Rank where
  | level (s : String)
  | rule (s : String)
  deriving BEq, Repr, Inhabited

end CodeGraph.Grammar

/-- A grammar: rules in order, of which the first is the whole text. -/
structure CodeGraph.Grammar where
  name : String
  rules : List (String × CodeGraph.Grammar.Rule)
  /-- What may stand between any two tokens. -/
  extras : List CodeGraph.Grammar.Rule
  /-- Tokens that a hand-written scanner recognises, in order. -/
  externals : List CodeGraph.Grammar.Rule
  /-- Rules replaced by their bodies wherever they are used. -/
  inlined : List String
  /-- Rules that stand for a class of nodes. -/
  supertypes : List String
  /-- Precedence orders, tightest first in each. -/
  orders : List (List CodeGraph.Grammar.Rank)
  /-- The token whose matches may be keywords. -/
  word : String
  /-- Sets of rules between which an ambiguity is kept until the text settles it. -/
  conflicts : List (List String)
