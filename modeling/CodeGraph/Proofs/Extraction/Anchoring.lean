import CodeGraph.Proofs.Extraction.Occurrences
import CodeGraph.Proofs.Graph.Written
import CodeGraph.Source

/-! # Extracted nodes are anchored in files

A graph that was written from facts which were extracted from syntax trees has no loose nodes. A
function is defined or used in its file, and a class is defined in its file or is one of which only
the name is known, and then something inherits from it (`extracted_nodes_are_anchored`).

Most of this holds of any facts. That a caller is defined in its file does not: it holds because the
walk attributes a call to a function around it, and the nodes around a node are visited as well
(`Occurrence.exists_reaches_of_mem_around`), so that each caller is one of the functions that the
walk has found (`exists_function_of_caller`). -/

namespace CodeGraph

namespace Extraction

/-! ## Callers are declared -/

/-- The nodes around a node that is reached are reached. -/
theorem Occurrence.exists_reaches_of_mem_around {root : Tree} {o : Occurrence}
    (h : (ofRoot root).Reaches o) {s : Site} (hs : s ∈ o.around) :
    ∃ x, (ofRoot root).Reaches x ∧ x.toSite = s := by
  induction h with
  | self => cases hs
  | @child x index t hx _ _ ih =>
    -- around a child are its parent and what is around the parent
    rcases List.mem_cons.1 hs with rfl | hs
    · exact ⟨x, hx, rfl⟩
    · exact ih hs

section Facts

variable {language : Language} {source path : String} {root : Tree}

/-- What a walk finds of one kind is what is extracted at the nodes that are reached. -/
theorem mem_filterMap_visit {α : Type} {kind : Fact → Option α} {extract : Occurrence → Option α}
    (h : ∀ o, (factsAt language source path .module o).filterMap kind = (extract o).toList)
    {a : α} :
    a ∈ (visit language source path none root .module).1.filterMap kind ↔
      ∃ o, (Occurrence.ofRoot root).Reaches o ∧ extract o = some a := by
  have hvisit : (visit language source path none root .module).1
      = (Occurrence.ofRoot root).listed.flatMap (factsAt language source path .module) :=
    congrArg Prod.fst (visit_eq_listed language source path .module (.ofRoot root))
  simp only [hvisit, List.filterMap_flatMap, h, List.mem_flatMap, Occurrence.mem_listed,
    Option.mem_toList]

/-- The calls of a file are those of the nodes that are reached from its root. -/
theorem mem_calls_fileFacts {c : CallFact} :
    c ∈ (fileFacts language source path root).calls ↔
      ∃ o, (Occurrence.ofRoot root).Reaches o ∧ o.call? language source = some c :=
  mem_filterMap_visit fun o => o.call?_factsAt language source path

/-- The functions of a file are those of the nodes that are reached from its root. -/
theorem mem_functions_fileFacts {f : FunctionFact} :
    f ∈ (fileFacts language source path root).functions ↔
      ∃ o, (Occurrence.ofRoot root).Reaches o ∧ o.function? language source path = some f :=
  mem_filterMap_visit fun o => o.function?_factsAt language source path

/-- A call has the caller that is around it. -/
theorem Occurrence.caller_of_call? {o : Occurrence} {c : CallFact}
    (h : o.call? language source = some c) : c.caller = o.caller? language source := by
  rw [call?] at h
  split at h
  · cases h
    rfl
  · cases h
    rfl
  · cases h

/-- **A caller is declared**: if a call has a caller then the file has a function of that name. -/
theorem exists_function_of_caller {c : CallFact} {name : String}
    (hc : c ∈ (fileFacts language source path root).calls) (hcaller : c.caller = some name) :
    ∃ f ∈ (fileFacts language source path root).functions, f.name = name := by
  obtain ⟨o, ho, hcall⟩ := mem_calls_fileFacts.1 hc
  rw [Occurrence.caller_of_call? hcall, Occurrence.caller?] at hcaller
  -- the caller is the name of a function around the call
  obtain ⟨s, hs, hname⟩ := List.exists_of_findSome?_eq_some hcaller
  obtain ⟨x, hx, rfl⟩ := Occurrence.exists_reaches_of_mem_around ho hs
  have hconstruct : x.construct language source = .function (some name) := by
    cases hc : x.construct language source with
    | function name' =>
      rw [hc] at hname
      exact congrArg Construct.function hname
    | _ =>
      rw [hc] at hname
      cases hname
  -- and that function is visited itself
  have hfunction : x.function? language source path
      = some ⟨name, path, x.node.start.row + 1⟩ := by
    rw [Occurrence.function?, hconstruct]
  exact ⟨_, mem_functions_fileFacts.2 ⟨x, hx, hfunction⟩, rfl⟩

end Facts

end Extraction

/-! ## Anchors -/

/-- A graph in which the file at a path is there and has a name. -/
def Store.NamesFile (s : Store) (path : String) : Prop :=
  s.containsNode (.file path) ∧ (s.fileName? path).isSome

/-- A file that has been parsed, with the path under which it is recorded and the files that its
imports were resolved to. -/
structure ParsedFile where
  source : ParsedSource
  path : String
  resolved : List String

namespace ParsedFile

/-- What is written of a file. -/
def extracted (f : ParsedFile) : FileFacts × List String :=
  ((f.source.facts f.path).value, f.resolved)

/-- The graph that is written from files, one after the other. -/
def graphOf (files : List ParsedFile) : Store := Store.empty.writeAll (files.map extracted)

variable {files : List ParsedFile} {f : ParsedFile}

/-- Every file that was written is named in the graph under its path. -/
theorem namesFile_graphOf (hf : f ∈ files) : (graphOf files).NamesFile f.path := by
  have hmem := List.mem_map_of_mem (f := extracted) hf
  refine ⟨Store.containsNode_writeAll.2 ⟨_, hmem, ?_⟩,
    Store.isSome_fileName?_writeAll.2 ⟨_, hmem, rfl⟩⟩
  exact List.mem_cons_self ..

/-- The links of the graph are those planned for the files it was written from. -/
theorem hasLink_graphOf {l : Link} :
    (graphOf files).hasLink l ↔
      ∃ f ∈ files, l ∈ Plan.linksOf f.extracted.1 f.resolved l.relation := by
  simp only [graphOf, Store.hasLink_writeAll, List.mem_map, exists_exists_and_eq_and]
  rfl

/-- The nodes of the graph are those planned for the files it was written from. -/
theorem containsNode_graphOf {k : NodeKey} :
    (graphOf files).containsNode k ↔
      ∃ f ∈ files, k ∈ Plan.nodesOf f.extracted.1 f.resolved k.label := by
  simp only [graphOf, Store.containsNode_writeAll, List.mem_map, exists_exists_and_eq_and]
  rfl

/-- A function that a file declares is defined in it. -/
theorem hasLink_definedIn_of_function (hf : f ∈ files) {g : FunctionFact}
    (hg : g ∈ f.extracted.1.functions) :
    (graphOf files).hasLink ⟨.function g.name f.path, .definedIn, .file f.path⟩ :=
  hasLink_graphOf.2 ⟨f, hf, List.mem_append_left _ (List.mem_map.2 ⟨g, hg, rfl⟩)⟩

/-- The caller of a call is defined in the file of the call. -/
theorem hasLink_definedIn_of_caller (hf : f ∈ files) {c : CallFact} {name : String}
    (hc : c ∈ f.extracted.1.calls) (hcaller : c.caller = some name) :
    (graphOf files).hasLink ⟨.function name f.path, .definedIn, .file f.path⟩ := by
  obtain ⟨g, hg, rfl⟩ := Extraction.exists_function_of_caller hc hcaller
  exact hasLink_definedIn_of_function hf hg

/-- What is called is used in the file of the call. -/
theorem hasLink_usedIn_of_call (hf : f ∈ files) {c : CallFact} (hc : c ∈ f.extracted.1.calls) :
    (graphOf files).hasLink ⟨.function c.callee f.path, .usedIn, .file f.path⟩ :=
  hasLink_graphOf.2 ⟨f, hf, List.mem_map.2 ⟨c, hc, rfl⟩⟩

/-- Every link between functions is anchored at both ends. -/
theorem anchored_of_calls {l : Link} (h : (graphOf files).hasLink l)
    (hrelation : l.relation = .calls) :
    ∃ caller callee path, l = ⟨.function caller path, .calls, .function callee path⟩ ∧
      (graphOf files).hasLink ⟨.function caller path, .definedIn, .file path⟩ ∧
      (graphOf files).hasLink ⟨.function callee path, .usedIn, .file path⟩ ∧
      (graphOf files).NamesFile path := by
  obtain ⟨f, hf, hl⟩ := hasLink_graphOf.1 h
  rw [hrelation] at hl
  obtain ⟨p, hp, rfl⟩ := List.mem_map.1 hl
  obtain ⟨c, hc, hcaller, hcallee⟩ := FileFacts.mem_callerPairs.1 hp
  refine ⟨p.1, p.2, f.path, rfl, hasLink_definedIn_of_caller hf hc hcaller, ?_,
    namesFile_graphOf hf⟩
  rw [← hcallee]
  exact hasLink_usedIn_of_call hf hc

/-- Every function is defined or used in its file. -/
theorem anchored_of_function {name path : String}
    (h : (graphOf files).containsNode (.function name path)) :
    ((graphOf files).hasLink ⟨.function name path, .definedIn, .file path⟩ ∨
      (graphOf files).hasLink ⟨.function name path, .usedIn, .file path⟩) ∧
      (graphOf files).NamesFile path := by
  obtain ⟨f, hf, hk⟩ := containsNode_graphOf.1 h
  obtain ⟨name', hname, heq⟩ := List.mem_map.1 hk
  obtain ⟨rfl, rfl⟩ := NodeKey.function.inj heq
  refine ⟨?_, namesFile_graphOf hf⟩
  simp only [FileFacts.functionMentions, List.mem_append, List.mem_map,
    List.mem_filterMap] at hname
  rcases hname with (⟨g, hg, rfl⟩ | ⟨c, hc, hcaller⟩) | ⟨c, hc, rfl⟩
  · exact .inl (hasLink_definedIn_of_function hf hg)
  · exact .inl (hasLink_definedIn_of_caller hf hc hcaller)
  · exact .inr (hasLink_usedIn_of_call hf hc)

/-- A class belongs to a file that defines it, or only its name is known and something inherits from
it. -/
theorem anchored_of_class {name path : String}
    (h : (graphOf files).containsNode (.class name path)) :
    (∃ f ∈ files, f.path = path ∧
      (graphOf files).hasLink ⟨.class name path, .definedIn, .file path⟩) ∨
    path = "" ∧ ∃ child origin,
      (graphOf files).hasLink ⟨.class child origin, .inherits, .class name ""⟩ := by
  obtain ⟨f, hf, hk⟩ := containsNode_graphOf.1 h
  rcases List.mem_append.1 hk with hk | hk
  · obtain ⟨c, hc, heq⟩ := List.mem_map.1 hk
    obtain ⟨rfl, rfl⟩ := NodeKey.class.inj heq
    refine .inl ⟨f, hf, rfl, hasLink_graphOf.2 ⟨f, hf, ?_⟩⟩
    exact List.mem_append_right _ (List.mem_map.2 ⟨c, hc, rfl⟩)
  · obtain ⟨p, hp, heq⟩ := List.mem_map.1 hk
    obtain ⟨rfl, rfl⟩ := NodeKey.class.inj heq
    exact .inr ⟨rfl, p.1, f.path, hasLink_graphOf.2 ⟨f, hf, List.mem_map.2 ⟨p, hp, rfl⟩⟩⟩

/-- **Every node is anchored**, in the graph that is written from any parsed files with paths that
are not empty, in any order: a caller is defined in the file in which what it calls is used; every
function is defined or used in its file; every class that belongs to a file is defined in it, and
from every other class something inherits. The files meant here are all there, and have names. -/
theorem extracted_nodes_are_anchored (files : List ParsedFile) (hpaths : ∀ f ∈ files, f.path ≠ "") :
    let s := graphOf files
    (∀ l, s.hasLink l → l.relation = .calls → ∃ caller callee path,
      l = ⟨.function caller path, .calls, .function callee path⟩ ∧
        s.hasLink ⟨.function caller path, .definedIn, .file path⟩ ∧
        s.hasLink ⟨.function callee path, .usedIn, .file path⟩ ∧ s.NamesFile path) ∧
    (∀ name path, s.containsNode (.function name path) →
      (s.hasLink ⟨.function name path, .definedIn, .file path⟩ ∨
        s.hasLink ⟨.function name path, .usedIn, .file path⟩) ∧ s.NamesFile path) ∧
    (∀ name path, path ≠ "" → s.containsNode (.class name path) →
      s.hasLink ⟨.class name path, .definedIn, .file path⟩ ∧ s.NamesFile path) ∧
    ∀ name, s.containsNode (.class name "") →
      ∃ child path, s.hasLink ⟨.class child path, .inherits, .class name ""⟩ := by
  intro s
  refine ⟨fun l => anchored_of_calls, fun name path => anchored_of_function, ?_, ?_⟩
  · intro name path hpath hclass
    rcases anchored_of_class hclass with ⟨f, hf, rfl, hlink⟩ | ⟨hempty, -⟩
    · exact ⟨hlink, namesFile_graphOf hf⟩
    · exact absurd hempty hpath
  · intro name hclass
    rcases anchored_of_class hclass with ⟨f, hf, hempty, -⟩ | ⟨-, hinherits⟩
    · exact absurd hempty (hpaths f hf)
    · exact hinherits

/-- A class that inherits from another, with a method that calls a function. -/
theorem extracted_nodes_are_anchored_method :
    let name := fun (field : String) (start stop : Nat) =>
      ({ kind := "identifier", named := true, field, start := { byte := start },
         stop := { byte := stop } } : Tree)
    let node := fun (kind : String) (field : Option String) (children : List Tree) =>
      ({ kind, named := true, field, start := {}, stop := {}, children } : Tree)
    let method := node "function_definition" none
      [name "name" 17 18, node "call" none [name "function" 22 23]]
    let tree := node "class_definition" none
      [name "name" 6 7, node "argument_list" (some "superclasses") [name "" 8 9], method]
    let source : ParsedSource :=
      { path := "a.py", dialect := .python, text := "class C(B):\n def f(): g()", tree,
        errorCount := 0 }
    let s := graphOf [⟨source, "a.py", []⟩]
    s.hasLink ⟨.function "f" "a.py", .calls, .function "g" "a.py"⟩ ∧
      s.hasLink ⟨.function "f" "a.py", .definedIn, .file "a.py"⟩ ∧
      s.hasLink ⟨.function "g" "a.py", .usedIn, .file "a.py"⟩ ∧ s.NamesFile "a.py" ∧
      ∃ child path, s.hasLink ⟨.class child path, .inherits, .class "B" ""⟩ := by
  intro name node method tree source s
  have hcalls : (extracted ⟨source, "a.py", []⟩).1.callerPairs = [("f", "g")] := by decide +kernel
  have hbases : (extracted ⟨source, "a.py", []⟩).1.basePairs = [("C", "B")] := by decide +kernel
  have hlink : s.hasLink ⟨.function "f" "a.py", .calls, .function "g" "a.py"⟩ := by
    refine hasLink_graphOf.2 ⟨_, List.mem_singleton_self _, List.mem_map.2 ⟨("f", "g"), ?_, rfl⟩⟩
    rw [hcalls]
    exact List.mem_singleton_self _
  have hclass : s.containsNode (.class "B" "") := by
    refine containsNode_graphOf.2 ⟨_, List.mem_singleton_self _, List.mem_append_right _ ?_⟩
    rw [hbases]
    exact List.mem_singleton_self _
  have hpaths : ∀ f ∈ [(⟨source, "a.py", []⟩ : ParsedFile)], f.path ≠ "" := by simp
  obtain ⟨hall, -, -, hinherits⟩ := extracted_nodes_are_anchored _ hpaths
  obtain ⟨caller, callee, path, heq, hdefined, hused, hnames⟩ := hall _ hlink rfl
  cases heq
  exact ⟨hlink, hdefined, hused, hnames, hinherits "B" hclass⟩

end ParsedFile

end CodeGraph
