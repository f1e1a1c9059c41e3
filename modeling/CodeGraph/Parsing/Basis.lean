import CodeGraph.Grammar.Item
import CodeGraph.Grammar.TokenAutomaton
import CodeGraph.Grammar.TokenSet
import CodeGraph.Parsing.Scanner

/-! # A grammar prepared for parsing

Productions, items and token patterns of a grammar side by side, with the sets of tokens that the
parser asks for: words, tokens that may stand anywhere and tokens of the scanner. -/

namespace CodeGraph.Parsing

open CodeGraph.Grammar

/-- A grammar prepared for parsing. -/
structure Basis where
  grammar : Productions
  table : ItemTable
  tokens : TokenAutomaton
  scanner : Scanner
  /-- Words that are tokens of their own. -/
  keywords : Std.HashMap String Nat
  /-- The keywords. -/
  keywordSet : TokenSet
  /-- The tokens that may stand anywhere. -/
  extraSet : TokenSet
  /-- The tokens that the scanner knows. -/
  externalSet : TokenSet
  deriving Inhabited

namespace Basis

/-- Whether a fixed string is a word. -/
def isWordText (s : String) : Bool :=
  !s.isEmpty && s.toList.all fun c => c.isAlpha || c == '_'

/-- Prepares a grammar. -/
def ofGrammar (g : CodeGraph.Grammar) (scanner : Scanner) : Basis :=
  let p := Productions.ofGrammar g
  let keywords := p.tokens.zipIdx.foldl (fun (m : Std.HashMap String Nat) (t?, i) =>
    match t? with
    | some t =>
      match t.literal with
      | some s => if isWordText s && !t.immediate then m.insert s i else m
      | none => m
    | none => m) {}
  { grammar := p
    table := ItemTable.ofProductions p
    tokens := TokenAutomaton.ofProductions p
    scanner
    keywords
    keywordSet := TokenSet.ofList keywords.values
    extraSet := TokenSet.ofList p.extras
    externalSet := TokenSet.ofList p.externals.toList }

/-- Number of tokens. -/
def tokenCount (l : Basis) : Nat := l.grammar.tokenCount

/-- The item of a number. -/
def item (l : Basis) (i : Nat) : Item := l.table.items.getD i default

/-- Tokens that can begin a symbol. -/
def first (l : Basis) (s : Nat) : TokenSet := l.table.first.getD s 0

/-- The tokens that the scanner alone can find. -/
def scannedSet (l : Basis) : TokenSet :=
  TokenSet.ofList (l.grammar.externals.toList.filter fun i => (l.grammar.tokens.getD i none).isNone)

end Basis

end CodeGraph.Parsing
