import CodeGraph.Proofs.Extraction.Anchoring

/-! # Names that are empty

Where a token had to be supplied, a tree has a node whose text is empty. Most names are taken from a
node only if they are not empty. The texts of some nodes are taken as they are: `uncheckedNames`
lists those that become names of functions and classes, and `uncheckedModules` those that become
imported modules.

What a node is has an empty name exactly if one of these nodes is empty
(`JavaScript.empty_mem_names_iff`, `Python.empty_mem_names_iff`). The facts of a file have the names
that its nodes have, since a caller is the name of a function around the call and so of a node of
the file (`mem_names_fileFacts`), and what is planned for the graph has the names of the facts
(`Plan.exists_name_iff`). So it is known which files give nameless facts
(`nameless_iff_unchecked_empty`). -/

namespace CodeGraph

/-! ## Names in facts and plans -/

/-- The names of functions and classes in the facts of a file: of functions that are declared, call
or are called, and of classes that are declared or inherited from. -/
def FileFacts.names (f : FileFacts) : List String :=
  f.functionMentions ++ f.classes.flatMap fun c => c.name :: c.bases

/-- The names in the facts of a file: of functions, callers, callees, classes and bases. -/
theorem FileFacts.mem_names {f : FileFacts} {name : String} :
    name ∈ f.names ↔ (∃ x ∈ f.functions, x.name = name) ∨ (∃ c ∈ f.calls, c.caller = some name) ∨
      (∃ c ∈ f.calls, c.callee = name) ∨ ∃ c ∈ f.classes, c.name = name ∨ name ∈ c.bases := by
  simp only [names, functionMentions, List.mem_append, List.mem_map, List.mem_filterMap,
    List.mem_flatMap, List.mem_cons, or_assoc, eq_comm (a := name)]

/-- The name of a node that stands for a function or class. -/
def NodeKey.name? : NodeKey → Option String
  | file _ => none
  | function name _ => some name
  | .class name _ => some name

/-- **The names that are planned** are those of the facts. -/
theorem Plan.exists_name_iff {facts : FileFacts} {resolved : List String} {name : String} :
    (∃ op ∈ (batch facts resolved).ops, ∃ k ∈ op.nodes, k.name? = some name) ↔
      name ∈ facts.names := by
  simp only [mem_batch]
  rw [exists_upsert, FileFacts.mem_names]
  simp only [Upsert.nodes, DefinitionKind.node, List.exists_mem_cons_iff, List.not_mem_nil,
    false_and, exists_false, or_false, NodeKey.name?, reduceCtorEq, and_false, false_or,
    Option.some.injEq]
  constructor
  · rintro (⟨c, hc, h⟩ | ⟨p, hp, h⟩ | h | ⟨p, hp, h⟩ | h)
    · exact .inr (.inr (.inr ⟨c, hc, .inl h⟩))
    · obtain ⟨c, hc, hname, hbase⟩ := FileFacts.mem_basePairs.1 hp
      refine .inr (.inr (.inr ⟨c, hc, h.imp hname.trans fun h => ?_⟩))
      rwa [← h]
    · exact .inl h
    · obtain ⟨c, hc, hcaller, hcallee⟩ := FileFacts.mem_callerPairs.1 hp
      rcases h with h | h
      · exact .inr (.inl ⟨c, hc, h ▸ hcaller⟩)
      · exact .inr (.inr (.inl ⟨c, hc, hcallee.trans h⟩))
    · exact .inr (.inr (.inl h))
  · rintro (h | ⟨c, hc, h⟩ | h | ⟨c, hc, h | h⟩)
    · exact .inr (.inr (.inl h))
    · refine .inr (.inr (.inr (.inl ⟨(name, c.callee), ?_, .inl rfl⟩)))
      exact FileFacts.mem_callerPairs.2 ⟨c, hc, h, rfl⟩
    · exact .inr (.inr (.inr (.inr h)))
    · exact .inl ⟨c, hc, h⟩
    · exact .inr (.inl ⟨(c.name, name), FileFacts.mem_basePairs.2 ⟨c, hc, rfl, h⟩, .inr rfl⟩)

namespace Extraction

/-! ## Names that a node has -/

/-- The names of functions and classes that a construct gives. -/
def Construct.names : Construct → List String
  | .function name => name.toList
  | .signature name => [name]
  | .class (some name) bases => name :: bases
  | .class none _ => []
  | .call callee _ => callee.name?.toList
  | .imports _ | .other => []

/-- The modules that a construct imports. -/
def Construct.specifiers : Construct → List String
  | .imports specifiers => specifiers
  | .call _ loaded => loaded.toList
  | _ => []

section Facts

variable {language : Language} {source path : String} {root : Tree}

/-- The classes of a file are those of the nodes that are reached from its root. -/
theorem mem_classes_fileFacts {c : ClassFact} :
    c ∈ (fileFacts language source path root).classes ↔
      ∃ o, (Occurrence.ofRoot root).Reaches o ∧ o.class? language source path = some c :=
  mem_filterMap_visit fun o => o.class?_factsAt language source path

/-- A construct gives the names in what is extracted there, callers apart. -/
theorem Occurrence.mem_names_construct {o : Occurrence} {name : String} (path : String) :
    name ∈ (o.construct language source).names ↔
      (∃ f, o.function? language source path = some f ∧ f.name = name) ∨
      (∃ c, o.class? language source path = some c ∧ (c.name = name ∨ name ∈ c.bases)) ∨
      ∃ c, o.call? language source = some c ∧ c.callee = name := by
  unfold function? class? call?
  cases o.construct language source with
  | function own => cases own <;> simp [Construct.names, eq_comm]
  | signature own => simp [Construct.names, eq_comm]
  | «class» own bases => cases own <;> simp [Construct.names, eq_comm]
  | imports specifiers => simp [Construct.names]
  | call callee loaded => cases callee <;> simp [Construct.names, Callee.name?, eq_comm]
  | other => simp [Construct.names]

/-- **The names in the facts of a file** are those that its nodes give. -/
theorem mem_names_fileFacts {name : String} :
    name ∈ (fileFacts language source path root).names ↔
      ∃ o, (Occurrence.ofRoot root).Reaches o ∧ name ∈ (o.construct language source).names := by
  simp only [FileFacts.mem_names, Occurrence.mem_names_construct path]
  have hdeclared : (∃ f ∈ (fileFacts language source path root).functions, f.name = name) →
      ∃ o, (Occurrence.ofRoot root).Reaches o ∧
        ∃ f, o.function? language source path = some f ∧ f.name = name := by
    rintro ⟨f, hf, h⟩
    obtain ⟨o, ho, hfunction⟩ := mem_functions_fileFacts.1 hf
    exact ⟨o, ho, f, hfunction, h⟩
  constructor
  · rintro (h | ⟨c, hc, h⟩ | ⟨c, hc, h⟩ | ⟨c, hc, h⟩)
    · obtain ⟨o, ho, h⟩ := hdeclared h
      exact ⟨o, ho, .inl h⟩
    · -- a caller is declared in the file
      obtain ⟨o, ho, h⟩ := hdeclared (exists_function_of_caller hc h)
      exact ⟨o, ho, .inl h⟩
    · obtain ⟨o, ho, hcall⟩ := mem_calls_fileFacts.1 hc
      exact ⟨o, ho, .inr (.inr ⟨c, hcall, h⟩)⟩
    · obtain ⟨o, ho, hclass⟩ := mem_classes_fileFacts.1 hc
      exact ⟨o, ho, .inr (.inl ⟨c, hclass, h⟩)⟩
  · rintro ⟨o, ho, ⟨f, hfunction, h⟩ | ⟨c, hclass, h⟩ | ⟨c, hcall, h⟩⟩
    · exact .inl ⟨f, mem_functions_fileFacts.2 ⟨o, ho, hfunction⟩, h⟩
    · exact .inr (.inr (.inr ⟨c, mem_classes_fileFacts.2 ⟨o, ho, hclass⟩, h⟩))
    · exact .inr (.inr (.inl ⟨c, mem_calls_fileFacts.2 ⟨o, ho, hcall⟩, h⟩))

/-- Outside every function, the modules that a node imports are those of its construct. -/
theorem Occurrence.imports_of_outside {o : Occurrence}
    (h : o.isInFunction language source = false) :
    o.imports language source
      = (o.construct language source).specifiers.map fun s => ⟨s, o.node.start.row + 1⟩ := by
  rw [imports, if_neg (by simp [h])]
  cases o.construct language source with
  | call callee loaded => cases loaded <;> rfl
  | _ => rfl

/-- Inside a function nothing is recorded as an import. -/
theorem Occurrence.imports_of_inside {o : Occurrence} (h : o.isInFunction language source = true) :
    o.imports language source = [] := by
  rw [imports, if_pos h]

/-- **The modules in the facts of a file** are those of its nodes with no function around them. -/
theorem mem_specifiers_fileFacts {specifier : String} :
    specifier ∈ (fileFacts language source path root).specifiers ↔
      ∃ o, (Occurrence.ofRoot root).Reaches o ∧ o.isInFunction language source = false ∧
        specifier ∈ (o.construct language source).specifiers := by
  have hnode : ∀ o : Occurrence, specifier ∈ (o.imports language source).map (·.specifier) ↔
      o.isInFunction language source = false ∧
        specifier ∈ (o.construct language source).specifiers := by
    intro o
    cases hin : o.isInFunction language source with
    | true => simp [Occurrence.imports_of_inside hin]
    | false => simp [Occurrence.imports_of_outside hin]
  rw [FileFacts.specifiers, imports_fileFacts, List.map_flatMap]
  simp only [List.mem_flatMap, hnode, Occurrence.mem_listed]

end Facts

/-! ## Nodes whose texts are taken as they are -/

/-- A name that is looked at before it is taken is not empty. -/
theorem ne_empty_of_identifierField {source field name : String} {t : Tree}
    (h : identifierField source t field = some name) : name ≠ "" := by
  unfold identifierField at h
  cases hfield : t.childByField field with
  | none => simp [hfield] at h
  | some c =>
    by_cases hkind : isIdentifierKind c.kind
    · by_cases hempty : c.text source = ""
      · simp [hfield, hkind, hempty] at h
      · simp only [hfield, hkind, String.isEmpty_iff, hempty, if_true, if_false,
          Option.some.injEq] at h
        rwa [← h]
    · simp [hfield, hkind] at h

/-- The node to which a parent binds the node at a place, where the target is a plain name. -/
def Place.boundNode (p : Place) (target value : String) : Option Tree :=
  if p.isField value then (p.parent.childByField target).filter (·.kind == "identifier") else none

/-- `Place.boundName` is the text of `Place.boundNode`. -/
theorem Place.boundName_eq (source : String) (p : Place) (target value : String) :
    p.boundName source target value = (p.boundNode target value).map (·.text source) := by
  unfold boundName boundNode
  cases p.isField value with
  | false => rfl
  | true =>
    cases p.parent.childByField target with
    | none => rfl
    | some t => by_cases hkind : t.kind == "identifier" <;> simp [Option.filter, hkind]

/-- The plain name that is called. -/
def calledNode (t : Tree) : Option Tree :=
  (t.childByField "function").filter (·.kind == "identifier")

/-- A call has an empty name exactly if the plain name that is called is empty. -/
theorem empty_mem_names_call (kind field source : String) (t : Tree) (loaded : Option String) :
    "" ∈ (Construct.call (calleeBy kind field source (t.childByField "function")) loaded).names ↔
      ∃ n ∈ (calledNode t).toList, n.text source = "" := by
  unfold calleeBy calledNode
  cases t.childByField "function" with
  | none => simp [Construct.names, Callee.name?]
  | some f =>
    by_cases hplain : f.kind = "identifier"
    · simp [hplain, Construct.names, Callee.name?, Option.filter, eq_comm (a := "")]
    refine iff_of_false ?_ (by simp [hplain, Option.filter])
    simp only [if_neg hplain]
    by_cases hmember : f.kind = kind
    · cases hname : identifierField source f field with
      | none => simp [hmember, Construct.names, Callee.name?]
      | some name =>
        have hne := ne_empty_of_identifierField hname
        simp [hmember, Construct.names, Callee.name?, hne.symm]
    · simp [hmember, Construct.names, Callee.name?]

/-- A function whose name was looked at has no empty name. -/
theorem empty_not_mem_names_function (source : String) (t : Tree) :
    "" ∉ (Construct.function (identifierField source t "name")).names := by
  intro h
  exact ne_empty_of_identifierField (Option.mem_toList.1 h) rfl

/-- A class whose name was looked at has an empty name exactly if it has a name and one of its bases
is empty. -/
theorem empty_mem_names_class (source : String) (t : Tree) (nodes : List Tree) :
    "" ∈ (Construct.class (identifierField source t "name") (nodes.map (·.text source))).names ↔
      ∃ n ∈ if (identifierField source t "name").isSome then nodes else [],
        n.text source = "" := by
  cases hname : identifierField source t "name" with
  | none => simp [Construct.names]
  | some name =>
    have hne := ne_empty_of_identifierField hname
    simp [Construct.names, hne.symm]

/-! ### JavaScript and TypeScript -/

namespace JavaScript

variable {source : String} {place : Option Place} {t : Tree}

/-- The node to which a function or class is bound. -/
def boundNode (place : Option Place) : Option Tree :=
  match place with
  | none => none
  | some p =>
    match p.parent.kind with
    | "variable_declarator" => p.boundNode "name" "value"
    | "assignment_expression" => p.boundNode "left" "right"
    | _ => none

/-- `boundName` is the text of `boundNode`. -/
theorem boundName_eq : boundName source place = (boundNode place).map (·.text source) := by
  unfold boundName boundNode
  cases place with
  | none => rfl
  | some p =>
    simp only [Place.boundName_eq]
    split <;> simp_all

/-- The plain name of a type that is implemented, with or without arguments. -/
def implementedNode (t : Tree) : Option Tree :=
  match t.kind with
  | "type_identifier" => some t
  | "generic_type" => (t.childByField "name").filter (·.kind == "type_identifier")
  | _ => none

/-- The plain names in one part of a class heading. -/
def clauseNodes (clause : Tree) : List Tree :=
  match clause.kind with
  | "identifier" => [clause]
  | "extends_clause" => (clause.childrenByField "value").filter (·.kind == "identifier")
  | "implements_clause" => clause.namedChildren.filterMap implementedNode
  | _ => []

/-- `clauseBases` are the texts of `clauseNodes`. -/
theorem clauseBases_eq (clause : Tree) :
    clauseBases source clause = (clauseNodes clause).map (·.text source) := by
  unfold clauseBases clauseNodes
  by_cases hplain : clause.kind = "identifier"
  · simp [hplain]
  by_cases hextends : clause.kind = "extends_clause"
  · simp [hextends]
  by_cases himplements : clause.kind = "implements_clause"
  · simp only [himplements, List.map_filterMap]
    refine List.filterMap_congr fun t _ => ?_
    unfold implementedNode
    by_cases htype : t.kind = "type_identifier"
    · simp [htype]
    by_cases hgeneric : t.kind = "generic_type"
    · simp only [hgeneric]
      cases t.childByField "name" with
      | none => rfl
      | some n => by_cases hkind : n.kind = "type_identifier" <;> simp [Option.filter, hkind]
    · simp
  · simp

/-- The plain names that a class extends or implements. -/
def baseNodes (t : Tree) : List Tree :=
  (t.namedChildren.filter (·.kind == "class_heritage")).flatMap fun h =>
    h.namedChildren.flatMap clauseNodes

/-- `bases` are the texts of `baseNodes`. -/
theorem bases_eq (t : Tree) : bases source t = (baseNodes t).map (·.text source) := by
  have hclause : clauseBases source = fun clause => (clauseNodes clause).map (·.text source) :=
    funext clauseBases_eq
  simp only [bases, baseNodes, List.map_flatMap, hclause]

/-- A function that can be bound to a name has an empty name exactly if that name is empty. -/
theorem empty_mem_names_literal (source : String) (place : Option Place) (t : Tree) :
    "" ∈ (Construct.function
        ((boundName source place).or (identifierField source t "name"))).names ↔
      ∃ n ∈ (boundNode place).toList, n.text source = "" := by
  rw [boundName_eq]
  cases boundNode place with
  | none =>
    have hown := empty_not_mem_names_function source t
    simpa using hown
  | some n => simp [Construct.names, eq_comm (a := "")]

/-- A class that can be bound to a name takes that name if it has none of its own. -/
theorem empty_mem_names_boundClass (source : String) (place : Option Place) (t : Tree) :
    "" ∈ (Construct.class ((identifierField source t "name").or (boundName source place))
        (bases source t)).names ↔
      ∃ n ∈ if (identifierField source t "name").isSome then baseNodes t
        else (boundNode place).toList.flatMap fun n => n :: baseNodes t, n.text source = "" := by
  rw [bases_eq, boundName_eq]
  cases hname : identifierField source t "name" with
  | none => cases boundNode place <;> simp [Construct.names, eq_comm (a := "")]
  | some name =>
    have hne := ne_empty_of_identifierField hname
    simp [Construct.names, hne.symm]

/-- The nodes whose texts are taken as names as they are: to which a function without a declaration
is bound, or a class that has no name of its own; what a class with a name extends or implements;
and what is called. -/
def uncheckedNames (source : String) (place : Option Place) (t : Tree) : List Tree :=
  let ownName := identifierField source t "name"
  match t.kind with
  | "function_expression" | "function" | "generator_function" | "arrow_function" =>
    (boundNode place).toList
  | "class_declaration" | "abstract_class_declaration" =>
    if ownName.isSome then baseNodes t else []
  | "class" =>
    if ownName.isSome then baseNodes t
    else (boundNode place).toList.flatMap fun n => n :: baseNodes t
  | "call_expression" => (calledNode t).toList
  | _ => []

/-- The text of a module is looked at before it is taken. -/
theorem ne_empty_of_stringValue {n : Tree} {value : String}
    (h : stringValue source n = some value) : value ≠ "" := by
  unfold stringValue at h
  by_cases hkind : n.kind = "string"
  · by_cases hempty : trimQuotes (n.text source) = ""
    · simp [hkind, hempty] at h
    · simp only [hkind, beq_self_eq_true, String.isEmpty_iff, hempty, if_true, if_false,
        Option.some.injEq] at h
      rwa [← h]
  · simp [hkind] at h

/-- An import or export never names the empty module: `stringValue` refuses it. -/
theorem ne_empty_of_importedModule {value : String} (h : importedModule source t = some value) :
    value ≠ "" := by
  unfold importedModule at h
  cases hsource : t.childByField "source" with
  | some s =>
    rw [hsource] at h
    exact ne_empty_of_stringValue h
  | none =>
    simp only [hsource] at h
    by_cases hkind : t.kind = "import_statement"
    · cases hclause : t.namedChildren.find? (·.kind == "import_require_clause") with
      | none => simp [hkind, hclause] at h
      | some clause =>
        simp only [hkind, hclause, beq_self_eq_true, if_true] at h
        cases hinner : clause.childByField "source" with
        | some s =>
          rw [hinner] at h
          exact ne_empty_of_stringValue h
        | none =>
          simp only [hinner] at h
          obtain ⟨n, -, hn⟩ := Option.bind_eq_some_iff.1 h
          exact ne_empty_of_stringValue hn
    · simp [hkind] at h

/-- A call of `require` never names the empty module. -/
theorem ne_empty_of_requiredModule {value : String} (h : requiredModule source t = some value) :
    value ≠ "" := by
  unfold requiredModule at h
  cases hfunction : t.childByField "function" with
  | none => simp [hfunction] at h
  | some f =>
    simp only [hfunction, Option.ite_none_right_eq_some] at h
    cases harguments : t.childByField "arguments" with
    | none => simp [harguments] at h
    | some args =>
      simp only [harguments] at h
      obtain ⟨n, -, hn⟩ := Option.bind_eq_some_iff.1 h.2
      exact ne_empty_of_stringValue hn

/-- A signature has a name that is not empty, or is nothing. -/
theorem classify_signature (source : String) (place : Option Place)
    (h : t.kind = "function_signature") :
    classify source place t = .other ∨
      ∃ name, name ≠ "" ∧ classify source place t = .signature name := by
  unfold classify
  simp only [h]
  cases hname : identifierField source t "name" with
  | none => exact .inl rfl
  | some name => exact .inr ⟨name, ne_empty_of_identifierField hname, rfl⟩

/-- An import or export names a module that is not empty, or is nothing. -/
theorem classify_import (source : String) (place : Option Place)
    (h : t.kind = "import_statement" ∨ t.kind = "export_statement") :
    classify source place t = .other ∨
      ∃ module, module ≠ "" ∧ classify source place t = .imports [module] := by
  unfold classify
  cases hmodule : importedModule source t with
  | none =>
    left
    rcases h with h | h <;> simp [h]
  | some module =>
    right
    refine ⟨module, ne_empty_of_importedModule hmodule, ?_⟩
    rcases h with h | h <;> simp [h]

/-- **What a node is has an empty name** exactly if a node is empty whose text is taken as it is. -/
theorem empty_mem_names_iff :
    "" ∈ (classify source place t).names ↔
      ∃ n ∈ uncheckedNames source place t, n.text source = "" := by
  by_cases hsignature : t.kind = "function_signature"
  · refine iff_of_false ?_ (by simp [uncheckedNames, hsignature])
    rcases classify_signature source place hsignature with heq | ⟨name, hne, heq⟩
    · simp [heq, Construct.names]
    · simp [heq, Construct.names, hne.symm]
  by_cases himport : t.kind = "import_statement" ∨ t.kind = "export_statement"
  · refine iff_of_false ?_ (by rcases himport with h | h <;> simp [uncheckedNames, h])
    rcases classify_import source place himport with heq | ⟨module, -, heq⟩
    · simp [heq, Construct.names]
    · simp [heq, Construct.names]
  -- what is left are functions, classes and calls
  have hfunction := empty_not_mem_names_function source t
  have hliteral := empty_mem_names_literal source place t
  have hdeclared := empty_mem_names_class source t (baseNodes t)
  rw [← bases_eq] at hdeclared
  have hclass := empty_mem_names_boundClass source place t
  have hcall := empty_mem_names_call "member_expression" "property" source t
    (requiredModule source t)
  rw [← callee] at hcall
  have hother : "" ∉ Construct.other.names := List.not_mem_nil
  unfold classify uncheckedNames
  dsimp only
  split <;> simp_all

/-- **No module is empty.** -/
theorem empty_not_mem_specifiers : "" ∉ (classify source place t).specifiers := by
  by_cases hsignature : t.kind = "function_signature"
  · rcases classify_signature source place hsignature with heq | ⟨name, -, heq⟩
    · simp [heq, Construct.specifiers]
    · simp [heq, Construct.specifiers]
  by_cases himport : t.kind = "import_statement" ∨ t.kind = "export_statement"
  · rcases classify_import source place himport with heq | ⟨module, hne, heq⟩
    · simp [heq, Construct.specifiers]
    · simp [heq, Construct.specifiers, hne.symm]
  have hcall : requiredModule source t ≠ some "" :=
    fun h => ne_empty_of_requiredModule h rfl
  unfold classify
  dsimp only
  split <;> simp_all [Construct.specifiers]

end JavaScript

/-! ### Python -/

namespace Python

variable {source : String} {place : Option Place} {t : Tree}

/-- The node to which a lambda is assigned. -/
def assignedNode (place : Option Place) : Option Tree :=
  match place with
  | some p => if p.parent.kind == "assignment" then p.boundNode "left" "right" else none
  | none => none

/-- `assignedName` is the text of `assignedNode`. -/
theorem assignedName_eq :
    assignedName source place = (assignedNode place).map (·.text source) := by
  unfold assignedName assignedNode
  cases place with
  | none => rfl
  | some p => by_cases hkind : p.parent.kind = "assignment" <;> simp [hkind, Place.boundName_eq]

/-- The plain names among the bases of a class. -/
def baseNodes (t : Tree) : List Tree :=
  match t.childByField "superclasses" with
  | some args => args.namedChildren.filter (·.kind == "identifier")
  | none => []

/-- `bases` are the texts of `baseNodes`. -/
theorem bases_eq (t : Tree) : bases source t = (baseNodes t).map (·.text source) := by
  unfold bases baseNodes
  cases t.childByField "superclasses" <;> rfl

/-- The node of the module or name that an import lists. -/
def importedNode (t : Tree) : Option Tree :=
  match t.kind with
  | "dotted_name" => some t
  | "aliased_import" => t.childByField "name"
  | _ => none

/-- `importedName` is the text of `importedNode`. -/
theorem importedName_eq (t : Tree) :
    importedName source t = (importedNode t).map (·.text source) := by
  unfold importedName importedNode
  by_cases hdotted : t.kind = "dotted_name"
  · simp [hdotted]
  by_cases haliased : t.kind = "aliased_import"
  · simp [haliased]
  · simp

/-- The nodes whose texts are taken as names as they are: to which a lambda is assigned, what a
class with a name inherits from, and what is called. -/
def uncheckedNames (source : String) (place : Option Place) (t : Tree) : List Tree :=
  match t.kind with
  | "lambda" => (assignedNode place).toList
  | "class_definition" => if (identifierField source t "name").isSome then baseNodes t else []
  | "call" => (calledNode t).toList
  | _ => []

/-- The nodes whose texts are taken as modules as they are: what is imported, unless it is imported
from a module. -/
def uncheckedModules (t : Tree) : List Tree :=
  match t.kind with
  | "import_statement" => (t.childrenByField "name").filterMap importedNode
  | _ => []

/-- A statement that imports from a module gives names inside that module, or the module itself. -/
theorem classify_from (source : String) (place : Option Place)
    (h : t.kind = "import_from_statement") :
    classify source place t = .other ∨
      ∃ (module : String) (names : List String), module ≠ "" ∧ classify source place t
        = .imports (if names.isEmpty then [module] else names.map (submodule module)) := by
  unfold classify
  simp only [h]
  cases t.childByField "module_name" with
  | none => exact .inl rfl
  | some m =>
    by_cases hempty : m.text source = ""
    · simp [hempty]
    · refine .inr ⟨m.text source, (t.childrenByField "name").filterMap (importedName source),
        hempty, ?_⟩
      simp only [String.isEmpty_iff, hempty, if_false]

/-- **What a node is has an empty name** exactly if a node is empty whose text is taken as it is. -/
theorem empty_mem_names_iff :
    "" ∈ (classify source place t).names ↔
      ∃ n ∈ uncheckedNames source place t, n.text source = "" := by
  have hfunction := empty_not_mem_names_function source t
  have hlambda : "" ∈ (Construct.function (assignedName source place)).names ↔
      ∃ n ∈ (assignedNode place).toList, n.text source = "" := by
    rw [assignedName_eq]
    simp [Construct.names]
  have hclass := empty_mem_names_class source t (baseNodes t)
  rw [← bases_eq] at hclass
  have hcall := empty_mem_names_call "attribute" "attribute" source t none
  rw [← callee] at hcall
  have himports : ∀ specifiers, "" ∉ (Construct.imports specifiers).names := by
    intro specifiers
    exact List.not_mem_nil
  have hother : "" ∉ Construct.other.names := List.not_mem_nil
  by_cases hfrom : t.kind = "import_from_statement"
  · refine iff_of_false ?_ (by simp [uncheckedNames, hfrom])
    rcases classify_from source place hfrom with heq | ⟨module, names, -, heq⟩
    · rwa [heq]
    · rw [heq]
      exact himports _
  · unfold classify uncheckedNames
    split <;> simp_all

/-- A name inside a module is not empty, whatever the name. -/
theorem submodule_ne_empty {module : String} (h : module ≠ "") (name : String) :
    submodule module name ≠ "" := by
  unfold submodule
  split <;> simp [h]

/-- **What a node is imports an empty module** exactly if a node is empty whose text is taken as it
is. -/
theorem empty_mem_specifiers_iff :
    "" ∈ (classify source place t).specifiers ↔
      ∃ n ∈ uncheckedModules t, n.text source = "" := by
  by_cases hfrom : t.kind = "import_from_statement"
  · refine iff_of_false ?_ (by simp [uncheckedModules, hfrom])
    rcases classify_from source place hfrom with heq | ⟨module, names, hmodule, heq⟩
    · simp [heq, Construct.specifiers]
    · rw [heq, Construct.specifiers]
      split
      · simpa using hmodule.symm
      · intro hmem
        obtain ⟨name, -, hname⟩ := List.mem_map.1 hmem
        exact submodule_ne_empty hmodule name hname
  by_cases himport : t.kind = "import_statement"
  · have hname : importedName source = fun n => (importedNode n).map (·.text source) :=
      funext importedName_eq
    simp only [classify, uncheckedModules, himport, Construct.specifiers, hname,
      ← List.map_filterMap, List.mem_map]
  · unfold classify uncheckedModules
    split <;> simp_all [Construct.specifiers]

end Python

/-! ## Facts with empty names -/

/-- The nodes whose texts are taken as names of functions and classes as they are, in a language. -/
def Site.uncheckedNames (s : Site) (language : Language) (source : String) : List Tree :=
  match language with
  | .javaScript | .typeScript => JavaScript.uncheckedNames source s.place s.node
  | .python => Python.uncheckedNames source s.place s.node

/-- The nodes whose texts are taken as modules as they are, in a language. -/
def Site.uncheckedModules (s : Site) (language : Language) : List Tree :=
  match language with
  | .javaScript | .typeScript => []
  | .python => Python.uncheckedModules s.node

/-- **An empty name is recorded** at a node exactly for one of its `uncheckedNames` with an empty
text. -/
theorem Site.empty_mem_names_iff (s : Site) (language : Language) (source : String) :
    "" ∈ (s.construct language source).names ↔
      ∃ n ∈ s.uncheckedNames language source, n.text source = "" := by
  cases language with
  | python => exact Python.empty_mem_names_iff
  | _ => exact JavaScript.empty_mem_names_iff

/-- **An empty specifier is recorded** at a node exactly for one of its `uncheckedModules` with an
empty text. -/
theorem Site.empty_mem_specifiers_iff (s : Site) (language : Language) (source : String) :
    "" ∈ (s.construct language source).specifiers ↔
      ∃ n ∈ s.uncheckedModules language, n.text source = "" := by
  cases language with
  | python => exact Python.empty_mem_specifiers_iff
  | _ => exact iff_of_false JavaScript.empty_not_mem_specifiers (by simp [uncheckedModules])

/-- **Which facts are nameless.** Some function or class that the facts of a file mention, declared,
inherited from, calling or called, has an empty name exactly if at some node of the tree a text that
is taken as it is is empty; and in that case, and no other, a function or class with an empty name
is planned for the graph, whatever the imports were resolved to. Some module has an empty name
exactly if such a text is empty at a node that imports modules and has no function around it; this
happens in Python only. -/
theorem nameless_iff_unchecked_empty (language : Language) (source path : String) (root : Tree) :
    ("" ∈ (fileFacts language source path root).names ↔
      ∃ o, (Occurrence.ofRoot root).Reaches o ∧
        ∃ n ∈ o.uncheckedNames language source, n.text source = "") ∧
    (∀ resolved,
      (∃ op ∈ (Plan.batch (fileFacts language source path root) resolved).ops,
        ∃ k ∈ op.nodes, k.name? = some "") ↔
      ∃ o, (Occurrence.ofRoot root).Reaches o ∧
        ∃ n ∈ o.uncheckedNames language source, n.text source = "") ∧
    ("" ∈ (fileFacts language source path root).specifiers ↔
      ∃ o, (Occurrence.ofRoot root).Reaches o ∧ o.isInFunction language source = false ∧
        ∃ n ∈ o.uncheckedModules language, n.text source = "") ∧
    (language ≠ .python → "" ∉ (fileFacts language source path root).specifiers) := by
  have hnames : "" ∈ (fileFacts language source path root).names ↔
      ∃ o, (Occurrence.ofRoot root).Reaches o ∧
        ∃ n ∈ o.uncheckedNames language source, n.text source = "" := by
    simp only [mem_names_fileFacts, Site.empty_mem_names_iff]
  refine ⟨hnames, fun resolved => Plan.exists_name_iff.trans hnames, ?_, ?_⟩
  · simp only [mem_specifiers_fileFacts, Site.empty_mem_specifiers_iff]
  · intro hlanguage hmem
    obtain ⟨o, -, -, hempty⟩ := mem_specifiers_fileFacts.1 hmem
    obtain ⟨n, hn, -⟩ := (o.empty_mem_specifiers_iff language source).1 hempty
    cases language with
    | python => exact hlanguage rfl
    | _ => cases hn

/-! ### Names that had to be supplied -/

/-- A named node from one column to another of the first line. -/
def sampleNode (kind : String) (field : Option String) (start stop : Nat) (children : List Tree)
    (isMissing : Bool) : Tree :=
  { kind, named := true, field, isMissing, hasError := true,
    start := { byte := start, column := start }, stop := { byte := stop, column := stop },
    children }

/-- The tree of an import without a name: the name was supplied, and has no text. -/
def suppliedImport : Tree :=
  sampleNode "module" none 0 9 [
    sampleNode "import_statement" none 0 6 [
      sampleNode "dotted_name" (some "name") 6 6 [
        sampleNode "identifier" none 6 6 [] true] false] false] false

/-- The tree of a call of a function without a name. -/
def suppliedCallee : Tree :=
  sampleNode "program" none 0 5 [
    sampleNode "expression_statement" none 0 4 [
      sampleNode "call_expression" none 0 4 [
        sampleNode "identifier" (some "function") 0 0 [] true,
        sampleNode "arguments" (some "arguments") 2 4 [] false] false] false] false

/-- **A name that was supplied is recorded**: an import of a module and a call of a function, each
with an empty name, and the function is planned for the graph. -/
theorem supplied_names_are_recorded :
    (fileFacts .python "import ;\n" "a.py" suppliedImport).imports = [⟨"", 1⟩] ∧
    (fileFacts .javaScript "?.()\n" "a.js" suppliedCallee).calls = [⟨none, "", 1⟩] ∧
    ∃ op ∈ (Plan.batch (fileFacts .javaScript "?.()\n" "a.js" suppliedCallee) []).ops,
      NodeKey.function "" "a.js" ∈ op.nodes := by
  have hcalls : (fileFacts .javaScript "?.()\n" "a.js" suppliedCallee).calls
      = [⟨none, "", 1⟩] := by rfl
  refine ⟨by rfl, hcalls, .use "" "a.js", ?_, by simp [Upsert.nodes]⟩
  rw [Plan.mem_batch, Plan.upserts, hcalls]
  simp [Plan.ofCall, fileFacts, FileFacts.ofFacts, FileFacts.empty]

end Extraction

end CodeGraph
