import CodeGraph.Graph.Statement
import CodeGraph.Proofs.Graph.History

/-! # What statements do in a database

A database holds a property graph: nodes of a kind, each with properties, and links between them. A
statement arrives there as a text with parameters. The text is read clause by clause
(`Clause.read?`), and each clause is carried out on the graph (`Clause.run`): a node pattern finds
the node with its kind and properties or makes it, a link pattern finds or makes a link between
nodes that have been named, and a property is overwritten. A statement fails if its text cannot be
read, if it uses a parameter or a variable that is not bound, or if it binds a variable twice. -/

namespace CodeGraph

/-! ## Reading -/

namespace Clause

/-- Whether a character belongs to a name. -/
def isNameChar (c : Char) : Bool := c.isAlphanum || c == '_'

/-- The names and signs of a text; `name` is what was read of a name, in reverse. -/
def words (name : List Char) : List Char → List String
  | [] => if name.isEmpty then [] else [String.ofList name.reverse]
  | c :: cs =>
    if isNameChar c then words (c :: name) cs
    else
      (if name.isEmpty then [] else [String.ofList name.reverse])
        ++ (if c == ' ' then [] else [String.singleton c]) ++ words [] cs

/-- Reads the properties of a node pattern, each with its parameter. -/
def readProperties : List String → Option (List (String × String) × List String)
  | property :: ":" :: "$" :: parameter :: "," :: rest =>
    (readProperties rest).map fun (more, rest) => ((property, parameter) :: more, rest)
  | property :: ":" :: "$" :: parameter :: "\x7d" :: rest => some ([(property, parameter)], rest)
  | _ => none

/-- Reads the rest of a pattern that begins with a variable: a link, or a node. -/
def readPattern (var : String) : List String → Option (Clause × List String)
  | ")" :: "-" :: "[" :: ":" :: relation :: "]" :: "-" :: ">" :: "(" :: target :: ")" :: rest => do
    return (mergeLink var (← Relation.ofName? relation) target, rest)
  | ":" :: label :: "\x7b" :: rest =>
    match readProperties rest with
    | some (properties, ")" :: rest) => do
      return (mergeNode var (← NodeLabel.ofName? label) properties, rest)
    | _ => none
  | _ => none

/-- Reads a clause that changes the graph. -/
def readOne : List String → Option (Clause × List String)
  | "MERGE" :: "(" :: var :: rest => readPattern var rest
  | "SET" :: var :: "." :: property :: "=" :: "$" :: parameter :: rest =>
    some (assign var property parameter, rest)
  | _ => none

/-- Reads clauses up to a number. -/
def readUpTo : Nat → List String → Option (List Clause)
  | _, [] => some []
  | 0, _ => none
  | n + 1, ws => do
    let (clause, rest) ← readOne ws
    return clause :: (← readUpTo n rest)

/-- The clauses of a text. -/
def read? (text : String) : Option (List Clause) :=
  let ws := words [] text.toList
  readUpTo ws.length ws

end Clause

/-! ## Graphs -/

/-- A node of a property graph. -/
structure PropertyNode where
  label : NodeLabel
  properties : String → Option String

namespace PropertyNode

/-- Whether a node is of a kind and has properties with some values, whatever else it has. -/
def fits (n : PropertyNode) (label : NodeLabel) (values : List (String × String)) : Bool :=
  n.label == label && values.all fun v => n.properties v.1 == some v.2

/-- A node with given properties and no others. -/
def ofValues (label : NodeLabel) (values : List (String × String)) : PropertyNode :=
  ⟨label, fun property => values.lookup property⟩

/-- Overwrites a property. -/
def set (n : PropertyNode) (property value : String) : PropertyNode :=
  { n with properties := fun p => if p = property then some value else n.properties p }

/-- What a node is known by, if it has the properties that tell. -/
def key? (n : PropertyNode) : Option NodeKey :=
  match n.label with
  | .file => (n.properties "path").map .file
  | .function => (n.properties "name").bind fun name => (n.properties "file").map (.function name)
  | .classType => (n.properties "name").bind fun name => (n.properties "file").map (.class name)

end PropertyNode

/-- A property graph. Nodes are numbered in the order in which they were made. -/
structure PropertyGraph where
  nodes : List PropertyNode := []
  links : List Edge := []

namespace PropertyGraph

/-- The number of the node that fits a pattern; a node is made if none fits. -/
def bindNode (g : PropertyGraph) (label : NodeLabel) (values : List (String × String)) :
    Nat × PropertyGraph :=
  match g.nodes.findIdx? (·.fits label values) with
  | some i => (i, g)
  | none => (g.nodes.length, { g with nodes := g.nodes ++ [.ofValues label values] })

/-- Makes a link unless it is there. -/
def bindLink (g : PropertyGraph) (e : Edge) : PropertyGraph :=
  if e ∈ g.links then g else { g with links := g.links ++ [e] }

/-- Overwrites a property of the node with a number. -/
def assign (g : PropertyGraph) (i : Nat) (property value : String) : PropertyGraph :=
  { g with nodes := g.nodes.modify i (·.set property value) }

end PropertyGraph

/-! ## Statements -/

/-- The nodes that variables stand for, by their numbers. -/
abbrev Bindings := List (String × Nat)

/-- The values that parameters give to the properties of a pattern. -/
def Clause.valuesOf? (parameters properties : List (String × String)) :
    Option (List (String × String)) :=
  properties.mapM fun p => (parameters.lookup p.2).map fun value => (p.1, value)

/-- Carries out a clause. -/
def Clause.run (parameters : List (String × String)) (bound : Bindings) (g : PropertyGraph) :
    Clause → Option (Bindings × PropertyGraph)
  | mergeNode var label properties =>
    match bound.lookup var, valuesOf? parameters properties with
    | none, some values =>
      let (i, g) := g.bindNode label values
      some ((var, i) :: bound, g)
    | _, _ => none
  | mergeLink source relation target =>
    match bound.lookup source, bound.lookup target with
    | some a, some b => some (bound, g.bindLink ⟨a, relation, b⟩)
    | _, _ => none
  | assign var property parameter =>
    match bound.lookup var, parameters.lookup parameter with
    | some i, some value => some (bound, g.assign i property value)
    | _, _ => none
  | countNodes _ | countLinks _ | one => some (bound, g)

/-- Carries out clauses one after the other. -/
def Clause.runAll (parameters : List (String × String)) :
    List Clause → Bindings → PropertyGraph → Option PropertyGraph
  | [], _, g => some g
  | c :: cs, bound, g =>
    match c.run parameters bound g with
    | some (bound, g) => runAll parameters cs bound g
    | none => none

/-- Carries out a statement. -/
def Statement.run (s : Statement) (g : PropertyGraph) : Option PropertyGraph :=
  (Clause.read? s.text).bind fun clauses => Clause.runAll s.parameters clauses [] g

/-- Carries out statements one after the other. -/
def Statement.runAll : List Statement → PropertyGraph → Option PropertyGraph
  | [], g => some g
  | s :: ss, g => (s.run g).bind (runAll ss)

/-! ## Keys -/

/-- The properties that a node is known by. -/
def NodeKey.values : NodeKey → List (String × String)
  | file path => [("path", path)]
  | function name path => [("name", name), ("file", path)]
  | .class name path => [("name", name), ("file", path)]

/-- A node fits the pattern of a key exactly if it is known by that key. -/
theorem PropertyNode.fits_values (n : PropertyNode) (k : NodeKey) :
    n.fits k.label k.values = (n.key? == some k) := by
  obtain ⟨label, properties⟩ := n
  rw [Bool.eq_iff_iff, beq_iff_eq]
  cases label <;> cases k <;>
    simp [fits, key?, NodeKey.label, NodeKey.values, Option.bind_eq_some_iff]

/-- A node made of the label and the values of a key has that key. -/
theorem PropertyNode.key?_ofValues (k : NodeKey) : (ofValues k.label k.values).key? = some k := by
  cases k <;> simp [ofValues, key?, NodeKey.label, NodeKey.values, List.lookup_cons]

/-- The name of a file is no part of its key. -/
theorem PropertyNode.key?_set_name {n : PropertyNode} {path : String}
    (h : n.key? = some (.file path)) (name : String) : (n.set "name" name).key? = n.key? := by
  obtain ⟨label, properties⟩ := n
  cases label with
  | file => simp [set, key?]
  | _ => simp [key?, Option.bind_eq_some_iff] at h

/-- Of two settings of one property the later one stands. -/
theorem PropertyNode.set_set (n : PropertyNode) (property value value' : String) :
    (n.set property value).set property value' = n.set property value' := by
  simp only [set]
  congr 1
  funext p
  split <;> rfl

/-- To give a property the value that it has changes nothing. -/
theorem PropertyNode.set_self {n : PropertyNode} {property value : String}
    (h : n.properties property = some value) : n.set property value = n := by
  obtain ⟨label, properties⟩ := n
  simp only [set]
  congr 1
  funext p
  split
  · next hp => rw [hp, ← h]
  · rfl

namespace PropertyGraph

/-- The keys of the nodes. -/
def keys (g : PropertyGraph) : List (Option NodeKey) := g.nodes.map PropertyNode.key?

/-- The number of the first node with a key. -/
def position? (g : PropertyGraph) (k : NodeKey) : Option Nat := g.keys.findIdx? (· == some k)

/-- The name of a file. -/
def fileName? (g : PropertyGraph) (path : String) : Option String :=
  (g.position? (.file path)).bind fun i => (g.nodes[i]?).bind (·.properties "name")

/-! ## Upserts -/

/-- The number of the node with a key, which is made if there is none. -/
def mergeNode (g : PropertyGraph) (k : NodeKey) : Nat × PropertyGraph :=
  g.bindNode k.label k.values

/-- Makes a link and its nodes, as far as they are not there. -/
def mergeLink (g : PropertyGraph) (l : Link) : PropertyGraph :=
  let (source, g) := g.mergeNode l.source
  let (target, g) := g.mergeNode l.target
  g.bindLink ⟨source, l.relation, target⟩

/-- Names a file, which is made if it is not there. -/
def mergeFile (g : PropertyGraph) (path name : String) : PropertyGraph :=
  let (i, g) := g.mergeNode (.file path)
  g.assign i "name" name

/-- `mergeFile` is a `mergeNode` of the path's key, then an `assign` of the name to what it
found. -/
theorem mergeFile_eq (g : PropertyGraph) (path name : String) :
    g.mergeFile path name
      = (g.mergeNode (.file path)).2.assign (g.mergeNode (.file path)).1 "name" name := rfl

/-- What an upsert does to a property graph. -/
def merge (g : PropertyGraph) (op : Upsert) : PropertyGraph :=
  match op with
  | .file path name => g.mergeFile path name
  | _ => match op.link? with
    | some l => g.mergeLink l
    | none => g

/-- What upserts do one after the other. -/
def mergeAll (g : PropertyGraph) (ops : List Upsert) : PropertyGraph := ops.foldl merge g

end PropertyGraph

/-- The same upsert with all its texts left empty. -/
def Upsert.blank : Upsert → Upsert
  | file _ _ => file "" ""
  | definition kind _ _ => definition kind "" ""
  | inherits _ _ _ => inherits "" "" ""
  | imports _ _ => imports "" ""
  | call _ _ _ => call "" "" ""
  | use _ _ => use "" ""

namespace Statement

/-- The texts that are sent. What an upsert says is passed in parameters and is no part of them. -/
def templateOf : Upsert → String
  | .file _ _ => "MERGE (f:File \x7bpath: $path\x7d) SET f.name = $name"
  | .definition .function _ _ =>
    "MERGE (n:Function \x7bname: $name, file: $file\x7d) MERGE (f:File \x7bpath: $file\x7d) MERGE (n)-[:DEFINED_IN]->(f)"
  | .definition .classType _ _ =>
    "MERGE (n:Class \x7bname: $name, file: $file\x7d) MERGE (f:File \x7bpath: $file\x7d) MERGE (n)-[:DEFINED_IN]->(f)"
  | .inherits _ _ _ =>
    "MERGE (c:Class \x7bname: $child, file: $file\x7d) MERGE (p:Class \x7bname: $parent, file: $parent_file\x7d) MERGE (c)-[:EXTENDS]->(p)"
  | .imports _ _ =>
    "MERGE (a:File \x7bpath: $from\x7d) MERGE (b:File \x7bpath: $to\x7d) MERGE (a)-[:IMPORTS]->(b)"
  | .call _ _ _ =>
    "MERGE (a:Function \x7bname: $caller, file: $file\x7d) MERGE (b:Function \x7bname: $callee, file: $file\x7d) MERGE (a)-[:CALLS]->(b)"
  | .use _ _ =>
    "MERGE (fn:Function \x7bname: $callee, file: $file\x7d) MERGE (f:File \x7bpath: $file\x7d) MERGE (fn)-[:USED_IN]->(f)"

/-- The clauses of an upsert's statement do not depend on its values, which are parameters. -/
theorem clauses_blank (op : Upsert) : (ofUpsert op.blank).clauses = (ofUpsert op).clauses := by
  cases op <;> rfl

/-- The text of an upsert's statement is the template of its kind. -/
theorem text_ofUpsert (op : Upsert) : (ofUpsert op).text = templateOf op := by
  rw [text, ← clauses_blank, ← text]
  cases op with
  | definition kind name file =>
    cases kind <;> (simp only [Upsert.blank, templateOf]; decide +kernel)
  | _ => simp only [Upsert.blank, templateOf]; decide +kernel

/-- The text of the statement of an upsert is read as its clauses. -/
theorem read?_text_ofUpsert (op : Upsert) :
    Clause.read? (ofUpsert op).text = some (ofUpsert op).clauses := by
  rw [text_ofUpsert, ← clauses_blank, Clause.read?]
  cases op with
  | definition kind name file =>
    cases kind <;>
      (simp only [Upsert.blank, templateOf]; rw [String.toList_ofList]; decide +kernel)
  | _ => simp only [Upsert.blank, templateOf]; rw [String.toList_ofList]; decide +kernel

/-- **The statement of an upsert makes the upsert**, whatever texts the upsert has. -/
theorem run_ofUpsert (op : Upsert) (g : PropertyGraph) :
    (ofUpsert op).run g = some (g.merge op) := by
  rw [run, read?_text_ofUpsert, Option.bind_some]
  cases op with
  | definition kind name file => cases kind <;> rfl
  | _ => rfl

/-- The statements of upserts make the upserts, one after the other. -/
theorem runAll_ofUpsert (ops : List Upsert) (g : PropertyGraph) :
    runAll (ops.map ofUpsert) g = some (g.mergeAll ops) := by
  induction ops generalizing g with
  | nil => rfl
  | cons op ops ih =>
    rw [List.map_cons, runAll, run_ofUpsert, Option.bind_some, ih]
    rfl

end Statement

namespace PropertyGraph

variable {g : PropertyGraph} {k k' : NodeKey} {i : Nat}

/-! ## Nodes found by their keys -/

/-- Looking for a node that fits a key's label and values is looking for the key. -/
theorem findIdx?_fits (g : PropertyGraph) (k : NodeKey) :
    g.nodes.findIdx? (·.fits k.label k.values) = g.position? k := by
  rw [position?, keys, List.findIdx?_map]
  exact congrArg (g.nodes.findIdx? ·) (funext fun n => n.fits_values k)

/-- `mergeNode` of a key that is found changes nothing. -/
theorem mergeNode_of_some (h : g.position? k = some i) : g.mergeNode k = (i, g) := by
  rw [mergeNode, bindNode, findIdx?_fits, h]

/-- `mergeNode` of a key that is not found puts one node with its values at the end. -/
theorem mergeNode_of_none (h : g.position? k = none) :
    g.mergeNode k
      = (g.nodes.length, { g with nodes := g.nodes ++ [.ofValues k.label k.values] }) := by
  rw [mergeNode, bindNode, findIdx?_fits, h]

/-- A key is not found exactly when no node has it. -/
theorem position?_eq_none_iff : g.position? k = none ↔ some k ∉ g.keys := by
  simp only [position?, List.findIdx?_eq_none_iff, beq_eq_false_iff_ne]
  exact ⟨fun h hmem => h _ hmem rfl, fun h x hx heq => h (heq ▸ hx)⟩

/-- The node that is found has the key. -/
theorem keys_of_position? (h : g.position? k = some i) : g.keys[i]? = some (some k) := by
  obtain ⟨hlt, hkey, -⟩ := List.findIdx?_eq_some_iff_getElem.1 h
  rw [List.getElem?_eq_getElem hlt, beq_iff_eq.1 hkey]

/-- A position that is found is one of a node. -/
theorem lt_of_position? (h : g.position? k = some i) : i < g.nodes.length := by
  have hlt := (List.getElem?_eq_some_iff.1 (keys_of_position? h)).1
  rwa [keys, List.length_map] at hlt

/-- `mergeNode` of a new key puts it at the end of the keys. -/
theorem keys_mergeNode_of_none (h : g.position? k = none) :
    (g.mergeNode k).2.keys = g.keys ++ [some k] := by
  rw [mergeNode_of_none h, keys, List.map_append, List.map_singleton, PropertyNode.key?_ofValues]
  rfl

/-- Afterwards the node is found, and all else as before. -/
theorem position?_mergeNode (g : PropertyGraph) (k k' : NodeKey) :
    (g.mergeNode k).2.position? k'
      = if k = k' then some (g.mergeNode k).1 else g.position? k' := by
  cases h : g.position? k with
  | some i =>
    rw [mergeNode_of_some h]
    split
    · next hk => rw [← hk, h]
    · rfl
  | none =>
    have hlength : g.keys.length = g.nodes.length := List.length_map _
    rw [position?, keys_mergeNode_of_none h, List.findIdx?_append, ← position?,
      mergeNode_of_none h]
    split
    · next hk => simp [← hk, h, hlength]
    · next hk => simp [hk]

/-- After `mergeNode k` the key `k` is found where `mergeNode` says. -/
theorem position?_mergeNode_self (g : PropertyGraph) (k : NodeKey) :
    (g.mergeNode k).2.position? k = some (g.mergeNode k).1 := by
  rw [position?_mergeNode, if_pos rfl]

/-- What was found is still found. -/
theorem position?_mergeNode_of_some (h : g.position? k' = some i) :
    (g.mergeNode k).2.position? k' = some i := by
  rw [position?_mergeNode]
  split
  · next hk =>
    subst hk
    rw [mergeNode_of_some h]
  · exact h

/-- An old number belongs to an old key. -/
theorem position?_of_mergeNode (hi : (g.mergeNode k).2.position? k' = some i)
    (hlt : i < g.nodes.length) : g.position? k' = some i := by
  rw [position?_mergeNode] at hi
  split at hi
  · next hk =>
    subst hk
    cases h : g.position? k with
    | some j => rwa [mergeNode_of_some h] at hi
    | none =>
      rw [mergeNode_of_none h] at hi
      cases hi
      omega
  · exact hi

/-- `mergeNode` draws and deletes no link. -/
@[simp] theorem links_mergeNode (g : PropertyGraph) (k : NodeKey) :
    (g.mergeNode k).2.links = g.links := by
  cases h : g.position? k with
  | some i => rw [mergeNode_of_some h]
  | none => rw [mergeNode_of_none h]

/-- `bindLink` leaves the nodes alone. -/
@[simp] theorem nodes_bindLink (g : PropertyGraph) (e : Edge) : (g.bindLink e).nodes = g.nodes := by
  rw [bindLink]
  split <;> rfl

/-- `bindLink` leaves every key where it is found. -/
@[simp] theorem position?_bindLink (g : PropertyGraph) (e : Edge) (k : NodeKey) :
    (g.bindLink e).position? k = g.position? k := by
  rw [position?, keys, nodes_bindLink, ← keys, ← position?]

/-- `bindLink e` adds `e` to the links, once at most, and nothing else. -/
theorem mem_links_bindLink {e e' : Edge} : e' ∈ (g.bindLink e).links ↔ e' ∈ g.links ∨ e' = e := by
  rw [bindLink]
  split
  · next he =>
    constructor
    · exact Or.inl
    · rintro (he' | rfl)
      exacts [he', he]
  · rw [List.mem_append, List.mem_singleton]

/-- A name makes no difference to the keys. -/
theorem keys_assign_name {path : String} (h : g.position? (.file path) = some i) (name : String) :
    (g.assign i "name" name).keys = g.keys := by
  obtain ⟨n, hn, hkey⟩ := Option.map_eq_some_iff.1 (List.getElem?_map .. ▸ keys_of_position? h)
  refine List.ext_getElem? fun j => ?_
  rw [keys, keys, assign, List.getElem?_map, List.getElem?_map, List.getElem?_modify]
  by_cases hij : i = j
  · subst hij
    simp [hn, PropertyNode.key?_set_name hkey]
  · simp [hij]

/-- Assigning a name to a file moves no key: names are not part of keys. -/
theorem position?_assign_name {path : String} (h : g.position? (.file path) = some i)
    (name : String) (k : NodeKey) : (g.assign i "name" name).position? k = g.position? k := by
  rw [position?, keys_assign_name h, ← position?]

/-! ## Names -/

/-- A new node has no name. -/
theorem fileName?_mergeNode (g : PropertyGraph) (k : NodeKey) (path : String) :
    (g.mergeNode k).2.fileName? path = g.fileName? path := by
  cases h : g.position? k with
  | some i => rw [mergeNode_of_some h]
  | none =>
    rw [fileName?, fileName?, position?_mergeNode]
    split
    · next hk =>
      subst hk
      simp [h, mergeNode_of_none h, PropertyNode.ofValues, NodeKey.values]
    · -- another file keeps its node, which stands before the new one
      refine Option.bind_congr fun i hi => ?_
      rw [mergeNode_of_none h, List.getElem?_append_left (lt_of_position? hi)]

/-- `bindLink` renames no file. -/
theorem fileName?_bindLink (g : PropertyGraph) (e : Edge) (path : String) :
    (g.bindLink e).fileName? path = g.fileName? path := by
  rw [fileName?, fileName?, position?_bindLink, nodes_bindLink]

/-- Reading names after one is assigned to a file: the new one there, the old ones elsewhere. -/
theorem fileName?_assign_name {path : String} (h : g.position? (.file path) = some i)
    (name path' : String) :
    (g.assign i "name" name).fileName? path'
      = if path = path' then some name else g.fileName? path' := by
  rw [fileName?, position?_assign_name h]
  split
  · next hpath =>
    subst hpath
    simp [h, assign, List.getElem?_modify, lt_of_position? h, PropertyNode.set]
  · next hpath =>
    rw [fileName?]
    refine Option.bind_congr fun j hj => ?_
    -- the node of another path is another node
    have hne : i ≠ j := by
      rintro rfl
      have hkeys := (keys_of_position? h).symm.trans (keys_of_position? hj)
      cases hkeys
      exact hpath rfl
    rw [assign, List.getElem?_modify_ne _ _ hne]

/-- An upsert that asks for a link is carried out by `mergeLink`. -/
theorem merge_of_link {op : Upsert} {l : Link} (hl : op.link? = some l) :
    g.merge op = g.mergeLink l := by
  cases op <;> cases hl <;> rfl

/-- **One step**: an upsert changes no name but the one it gives. -/
theorem fileName?_merge (g : PropertyGraph) (op : Upsert) (path : String) :
    (g.merge op).fileName? path = (op.nameFor? path).or (g.fileName? path) := by
  obtain ⟨path', name, rfl⟩ | ⟨l, hl, -⟩ := op.file_or_link
  · rw [merge, mergeFile_eq, fileName?_assign_name (position?_mergeNode_self g _),
      fileName?_mergeNode, Upsert.nameFor?]
    split <;> rfl
  · rw [merge_of_link hl, Upsert.nameFor?_of_link hl, Option.none_or, mergeLink, fileName?_bindLink,
      fileName?_mergeNode, fileName?_mergeNode]

end PropertyGraph

end CodeGraph
