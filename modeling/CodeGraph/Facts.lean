import CodeGraph.Language

/-! # Facts of a file

What is known of a source file: the functions and classes that it declares, the modules that it
imports and the calls that it makes, each kind in the order of the text. -/

namespace CodeGraph

/-- A named function. -/
structure FunctionFact where
  name : String
  file : String
  line : Nat
  deriving BEq, DecidableEq, Repr, Inhabited

/-- A named class with the plain names that it inherits from. -/
structure ClassFact where
  name : String
  file : String
  bases : List String
  line : Nat
  deriving BEq, DecidableEq, Repr, Inhabited

/-- An imported module, as the text names it. -/
structure ImportFact where
  specifier : String
  line : Nat
  deriving BEq, DecidableEq, Repr, Inhabited

/-- A call; one outside every named function has no caller. -/
structure CallFact where
  caller : Option String
  callee : String
  line : Nat
  deriving BEq, DecidableEq, Repr, Inhabited

/-- Everything known of one file. -/
structure FileFacts where
  path : String
  name : String
  language : Language
  functions : List FunctionFact := []
  classes : List ClassFact := []
  imports : List ImportFact := []
  calls : List CallFact := []
  deriving BEq, DecidableEq, Repr, Inhabited

/-- Numbers of facts. -/
structure FactCounts where
  functions : Nat := 0
  classes : Nat := 0
  imports : Nat := 0
  calls : Nat := 0
  deriving BEq, DecidableEq, Repr, Inhabited

/-- The counts in words. -/
def FactCounts.display (c : FactCounts) : String :=
  s!"functions={c.functions}, classes={c.classes}, imports={c.imports}, calls={c.calls}"

namespace FileFacts

/-- A file of which nothing is known. -/
def empty (path : String) (language : Language) : FileFacts :=
  { path, name := Path.baseName path, language }

/-- The numbers of facts. -/
def counts (f : FileFacts) : FactCounts :=
  ⟨f.functions.length, f.classes.length, f.imports.length, f.calls.length⟩

/-- Whether nothing is known. -/
def isEmpty (f : FileFacts) : Bool :=
  f.functions.isEmpty && f.classes.isEmpty && f.imports.isEmpty && f.calls.isEmpty

/-- Puts a name into a sorted list of distinct names. -/
def insertName (n : String) : List String → List String
  | [] => [n]
  | m :: ms => if n < m then n :: m :: ms else if n = m then m :: ms else m :: insertName n ms

/-- The distinct names, sorted. -/
def distinct (names : List String) : List String := names.foldr insertName []

/-- The distinct names of functions, sorted. -/
def functionNames (f : FileFacts) : List String := distinct (f.functions.map (·.name))

/-- The distinct names of classes, sorted. -/
def classNames (f : FileFacts) : List String := distinct (f.classes.map (·.name))

/-- Callers and callees in order. -/
def callPairs (f : FileFacts) : List (Option String × String) :=
  f.calls.map fun c => (c.caller, c.callee)

/-- The imported modules in order. -/
def specifiers (f : FileFacts) : List String := f.imports.map (·.specifier)

end FileFacts

/-- A fact of any kind. -/
inductive Fact where
  | function (f : FunctionFact)
  | class (c : ClassFact)
  | importing (i : ImportFact)
  | call (c : CallFact)
  deriving BEq, DecidableEq, Repr, Inhabited

namespace Fact

/-- The function, if the fact is one. -/
def function? : Fact → Option FunctionFact
  | function f => some f
  | _ => none

/-- The class, if the fact is one. -/
def class? : Fact → Option ClassFact
  | .class c => some c
  | _ => none

/-- The import, if the fact is one. -/
def import? : Fact → Option ImportFact
  | importing i => some i
  | _ => none

/-- The call, if the fact is one. -/
def call? : Fact → Option CallFact
  | call c => some c
  | _ => none

end Fact

/-- Sorts facts by kind, each kind in order. -/
def FileFacts.ofFacts (path : String) (language : Language) (facts : List Fact) : FileFacts :=
  { FileFacts.empty path language with
    functions := facts.filterMap Fact.function?
    classes := facts.filterMap Fact.class?
    imports := facts.filterMap Fact.import?
    calls := facts.filterMap Fact.call? }

end CodeGraph
