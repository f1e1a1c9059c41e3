import CodeGraph.Proofs.Extraction.Names
import CodeGraph.Proofs.Text.Trimming

/-! # Modules that are named by string literals

In JavaScript and TypeScript a module is named by a string literal: after an import or export, in
`import x = require(…)` or as the argument of a call of `require`. On each of these ways one node is
reached (`JavaScript.Loads`), and what is recorded is read from its text
(`JavaScript.mem_specifiers_iff`).

The text is a body between two quotes. Reading takes away quotes of both kinds from both ends, as
many as there are (`JavaScript.Quoted.trimQuotes_eq`). So the body is recorded as it is written
exactly if it does not begin or end with a quote itself, and nothing is recorded exactly if it is
made of quotes alone (`specifier_as_written_iff`). -/

namespace CodeGraph.Extraction

namespace JavaScript

/-! ## The ways to a literal -/

/-- **The node by which a node names a module**, in each of the ways that there are. -/
inductive Loads (source : String) (t : Tree) : Tree → Prop
  /-- What an import or export is from. -/
  | statement {literal : Tree}
      (kind : t.kind = "import_statement" ∨ t.kind = "export_statement")
      (child : t.childByField "source" = some literal) : Loads source t literal
  /-- What the clause of an import requires, where it has a role of its own. -/
  | clause {clause literal : Tree} (kind : t.kind = "import_statement")
      (noSource : t.childByField "source" = none)
      (isClause : t.namedChildren.find? (·.kind == "import_require_clause") = some clause)
      (child : clause.childByField "source" = some literal) : Loads source t literal
  /-- What the clause of an import requires, where it has none. -/
  | clauseString {clause literal : Tree} (kind : t.kind = "import_statement")
      (noSource : t.childByField "source" = none)
      (isClause : t.namedChildren.find? (·.kind == "import_require_clause") = some clause)
      (noClauseSource : clause.childByField "source" = none)
      (child : clause.namedChildren.find? (·.kind == "string") = some literal) :
      Loads source t literal
  /-- The first argument of a call of `require`. -/
  | call {function arguments literal : Tree} (kind : t.kind = "call_expression")
      (isFunction : t.childByField "function" = some function)
      (name : function.kind = "identifier" ∧ function.text source = "require")
      (isArguments : t.childByField "arguments" = some arguments)
      (child : arguments.namedChildren.head? = some literal) : Loads source t literal

variable {source : String} {place : Option Place} {t literal : Tree}

/-- An import or export statement specifies the module it is from, and nothing else. -/
theorem specifiers_of_statement (h : t.kind = "import_statement" ∨ t.kind = "export_statement") :
    (classify source place t).specifiers = (importedModule source t).toList := by
  unfold classify
  cases importedModule source t with
  | none => rcases h with h | h <;> simp [h, Construct.specifiers]
  | some module => rcases h with h | h <;> simp [h, Construct.specifiers]

/-- A call specifies the module that it requires, and nothing else. -/
theorem specifiers_of_call (h : t.kind = "call_expression") :
    (classify source place t).specifiers = (requiredModule source t).toList := by
  simp [classify, h, Construct.specifiers]

/-- **What is recorded is read from the node that names the module.** -/
theorem Loads.specifiers_eq (h : Loads source t literal) :
    (classify source place t).specifiers = (stringValue source literal).toList := by
  cases h with
  | statement kind child => rw [specifiers_of_statement kind, importedModule, child]
  | clause kind noSource isClause child =>
    rw [specifiers_of_statement (.inl kind), importedModule]
    simp [kind, noSource, isClause, child]
  | clauseString kind noSource isClause noClauseSource child =>
    rw [specifiers_of_statement (.inl kind), importedModule]
    simp [kind, noSource, isClause, noClauseSource, child]
  | call kind isFunction name isArguments child =>
    rw [specifiers_of_call kind, requiredModule]
    simp [isFunction, name, isArguments, child]

/-- The module of an import or export is the value of a literal by which the statement `Loads`
it. -/
theorem exists_loads_of_importedModule {module : String}
    (hkind : t.kind = "import_statement" ∨ t.kind = "export_statement")
    (h : importedModule source t = some module) :
    ∃ literal, Loads source t literal ∧ stringValue source literal = some module := by
  rw [importedModule] at h
  cases hsource : t.childByField "source" with
  | some literal =>
    rw [hsource] at h
    exact ⟨literal, .statement hkind hsource, h⟩
  | none =>
    simp only [hsource] at h
    by_cases himport : t.kind = "import_statement"
    · cases hclause : t.namedChildren.find? (·.kind == "import_require_clause") with
      | none => simp [himport, hclause] at h
      | some clause =>
        simp only [himport, hclause, beq_self_eq_true, if_true] at h
        cases hinner : clause.childByField "source" with
        | some literal =>
          rw [hinner] at h
          exact ⟨literal, .clause himport hsource hclause hinner, h⟩
        | none =>
          simp only [hinner] at h
          obtain ⟨literal, hliteral, hvalue⟩ := Option.bind_eq_some_iff.1 h
          exact ⟨literal, .clauseString himport hsource hclause hinner hliteral, hvalue⟩
    · simp [himport] at h

/-- The module that is required is the value of a literal by which the call `Loads` it. -/
theorem exists_loads_of_requiredModule {module : String} (hkind : t.kind = "call_expression")
    (h : requiredModule source t = some module) :
    ∃ literal, Loads source t literal ∧ stringValue source literal = some module := by
  rw [requiredModule] at h
  cases hfunction : t.childByField "function" with
  | none => simp [hfunction] at h
  | some function =>
    simp only [hfunction, Option.ite_none_right_eq_some, Bool.and_eq_true, beq_iff_eq] at h
    obtain ⟨hname, h⟩ := h
    cases harguments : t.childByField "arguments" with
    | none => simp [harguments] at h
    | some arguments =>
      simp only [harguments] at h
      obtain ⟨literal, hliteral, hvalue⟩ := Option.bind_eq_some_iff.1 h
      exact ⟨literal, .call hkind hfunction hname harguments hliteral, hvalue⟩

/-- **Nothing else is recorded.** -/
theorem mem_specifiers_iff {module : String} :
    module ∈ (classify source place t).specifiers ↔
      ∃ literal, Loads source t literal ∧ stringValue source literal = some module := by
  constructor
  · intro h
    by_cases hstatement : t.kind = "import_statement" ∨ t.kind = "export_statement"
    · rw [specifiers_of_statement hstatement, Option.mem_toList] at h
      exact exists_loads_of_importedModule hstatement h
    by_cases hcall : t.kind = "call_expression"
    · rw [specifiers_of_call hcall, Option.mem_toList] at h
      exact exists_loads_of_requiredModule hcall h
    by_cases hsignature : t.kind = "function_signature"
    · rcases classify_signature source place hsignature with heq | ⟨name, -, heq⟩
      · simp [heq, Construct.specifiers] at h
      · simp [heq, Construct.specifiers] at h
    -- what is left are functions and classes, which name no module
    unfold classify at h
    dsimp only at h
    split at h <;> simp_all [Construct.specifiers]
  · rintro ⟨literal, hloads, hvalue⟩
    rw [hloads.specifiers_eq, hvalue]
    exact List.mem_singleton_self module

/-! ## Bodies between quotes -/

/-- `trimQuotes` takes quotes away at both ends. -/
theorem trimQuotes_eq (s : String) : trimQuotes s = Text.trimBothWhere isQuote s := by
  rw [trimQuotes, Text.trimBothWhere, Text.trimStartWhere, Text.trimEndWhere, Text.dropEnd,
    String.toList_ofList]
  rfl

/-- **A text as a string literal is written**: a body between two quotes of one kind. -/
structure Quoted (text body : String) : Prop where
  ne_empty : body ≠ ""
  text_eq : text = "\"" ++ body ++ "\"" ∨ text = "'" ++ body ++ "'"

/-- **A body that neither begins nor ends with a quote.** -/
def Bare (body : String) : Prop :=
  (∀ c ∈ body.toList.head?, isQuote c = false) ∧ ∀ c ∈ body.toList.getLast?, isQuote c = false

/-- The quotes around a body are taken away, and then those at its own ends. -/
theorem Quoted.trimQuotes_eq {text body : String} (h : Quoted text body) :
    trimQuotes text = trimQuotes body := by
  have hsurrounded : ∀ quote : String, (∀ c ∈ quote.toList, isQuote c = true) →
      trimQuotes (quote ++ body ++ quote) = trimQuotes body := by
    intro quote hquote
    rw [JavaScript.trimQuotes_eq, JavaScript.trimQuotes_eq]
    exact Text.trimBothWhere_surrounded hquote hquote body
  rcases h.text_eq with rfl | rfl
  · exact hsurrounded "\"" (by simp [isQuote])
  · exact hsurrounded "'" (by simp [isQuote])

/-- `trimQuotes` keeps a body exactly when it is `Bare`. -/
theorem trimQuotes_eq_self_iff {body : String} : trimQuotes body = body ↔ Bare body := by
  rw [trimQuotes_eq]
  exact Text.trimBothWhere_eq_self_iff

/-- `trimQuotes` leaves nothing exactly when there are only quotes. -/
theorem trimQuotes_eq_empty_iff {body : String} :
    trimQuotes body = "" ↔ ∀ c ∈ body.toList, isQuote c = true := by
  rw [trimQuotes_eq]
  exact Text.trimBothWhere_eq_empty_iff

/-- The value of a string literal is its text without quotes, unless nothing is left of it. -/
theorem stringValue_of_kind (h : literal.kind = "string") :
    stringValue source literal
      = if trimQuotes (literal.text source) = "" then none
        else some (trimQuotes (literal.text source)) := by
  simp only [stringValue, h, beq_self_eq_true, if_true, String.isEmpty_iff]

end JavaScript

open JavaScript (trimQuotes isQuote)

/-! ## What is recorded -/

/-- **A node that names a module by a body between quotes**, with no function around it. -/
structure Occurrence.NamesModule (language : Language) (source : String) (o : Occurrence)
    (body : String) : Prop where
  outside : o.isInFunction language source = false
  literal : ∃ literal, JavaScript.Loads source o.node literal ∧ literal.kind = "string" ∧
    JavaScript.Quoted (literal.text source) body

/-- Outside Python, a node is classified by `JavaScript.classify`. -/
theorem Site.construct_script {language : Language} (h : language ≠ .python) (s : Site)
    (source : String) :
    s.construct language source = JavaScript.classify source s.place s.node := by
  cases language with
  | python => exact absurd rfl h
  | _ => rfl

/-- **What a node records**: the body without the quotes at its ends, unless nothing is left. -/
theorem Occurrence.NamesModule.imports_eq {language : Language} (hlanguage : language ≠ .python)
    {source : String} {o : Occurrence} {body : String} (h : o.NamesModule language source body) :
    o.imports language source
      = if trimQuotes body = "" then [] else [⟨trimQuotes body, o.node.start.row + 1⟩] := by
  obtain ⟨literal, hloads, hkind, hquoted⟩ := h.literal
  rw [imports_of_outside h.outside, Site.construct_script hlanguage, hloads.specifiers_eq,
    JavaScript.stringValue_of_kind hkind, hquoted.trimQuotes_eq]
  by_cases hempty : trimQuotes body = ""
  · rw [if_pos hempty, if_pos hempty]
    rfl
  · rw [if_neg hempty, if_neg hempty]
    rfl

/-- **Every import that is recorded outside Python comes from a literal**, outside every function,
with the literal's text less its quotes as the specifier. -/
theorem exists_literal_of_mem_imports {language : Language} (hlanguage : language ≠ .python)
    {source : String} {o : Occurrence} {i : ImportFact} (h : i ∈ o.imports language source) :
    o.isInFunction language source = false ∧ ∃ literal, JavaScript.Loads source o.node literal ∧
      literal.kind = "string" ∧ i = ⟨trimQuotes (literal.text source), o.node.start.row + 1⟩ := by
  cases hin : o.isInFunction language source with
  | true =>
    rw [Occurrence.imports_of_inside hin] at h
    cases h
  | false =>
    rw [Occurrence.imports_of_outside hin, Site.construct_script hlanguage, List.mem_map] at h
    obtain ⟨module, hmodule, rfl⟩ := h
    obtain ⟨literal, hloads, hvalue⟩ := JavaScript.mem_specifiers_iff.1 hmodule
    have hkind : literal.kind = "string" := by
      by_contra hkind
      simp [JavaScript.stringValue, hkind] at hvalue
    rw [JavaScript.stringValue_of_kind hkind, Option.ite_none_left_eq_some] at hvalue
    exact ⟨rfl, literal, hloads, hkind, by rw [Option.some.inj hvalue.2]⟩

/-- **When modules are recorded as they are written**, for every tree of JavaScript or TypeScript.
The imports of the file are those of its nodes, one after the other. A node outside every function
that names a module by a body between quotes records the body without the quotes at its ends: the
body itself exactly if it does not begin or end with a quote of either kind, and nothing exactly if
it is made of quotes. Besides what is read from such literals nothing is recorded. -/
theorem specifier_as_written_iff (language : Language) (hlanguage : language ≠ .python)
    (source path : String) (root : Tree) :
    let facts := fileFacts language source path root
    let nodes := (Occurrence.ofRoot root).listed
    facts.imports = nodes.flatMap (·.imports language source) ∧
    (∀ o ∈ nodes, ∀ body, o.NamesModule language source body →
      let line := o.node.start.row + 1
      let recorded := o.imports language source
      recorded = (if trimQuotes body = "" then [] else [⟨trimQuotes body, line⟩]) ∧
      (recorded = [⟨body, line⟩] ↔ JavaScript.Bare body) ∧
      (recorded = [] ↔ ∀ c ∈ body.toList, isQuote c)) ∧
    ∀ i ∈ facts.imports, ∃ o ∈ nodes, o.isInFunction language source = false ∧
      ∃ literal, JavaScript.Loads source o.node literal ∧ literal.kind = "string" ∧
        i = ⟨trimQuotes (literal.text source), o.node.start.row + 1⟩ := by
  intro facts nodes
  have himports : facts.imports = nodes.flatMap (·.imports language source) :=
    imports_fileFacts language source path root
  refine ⟨himports, ?_, ?_⟩
  · intro o ho body hnames line recorded
    have hrecorded : recorded
        = if trimQuotes body = "" then [] else [⟨trimQuotes body, line⟩] :=
      hnames.imports_eq hlanguage
    obtain ⟨literal, -, -, hquoted⟩ := hnames.literal
    refine ⟨hrecorded, ?_, ?_⟩
    · rw [hrecorded, ← JavaScript.trimQuotes_eq_self_iff]
      -- of a body of quotes alone nothing is left to be recorded
      by_cases hempty : trimQuotes body = ""
      · rw [if_pos hempty, hempty]
        exact iff_of_false (by simp) (Ne.symm hquoted.ne_empty)
      · rw [if_neg hempty]
        simp
    · rw [hrecorded, ← JavaScript.trimQuotes_eq_empty_iff]
      by_cases hempty : trimQuotes body = ""
      · rw [if_pos hempty]
        exact iff_of_true rfl hempty
      · rw [if_neg hempty]
        exact iff_of_false (List.cons_ne_nil _ _) hempty
  · intro i hi
    rw [himports, List.mem_flatMap] at hi
    obtain ⟨o, ho, hmem⟩ := hi
    obtain ⟨hout, hliteral⟩ := exists_literal_of_mem_imports hlanguage hmem
    exact ⟨o, ho, hout, hliteral⟩

/-! ### Quotes inside quotes -/

/-- The text of the sample. -/
def quotedText : String := "import \"it's\"; require(\"'a'\")"

/-- The import in the sample. -/
def quotedImport : Tree :=
  { kind := "import_statement", named := true, start := { byte := 0 }, stop := { byte := 14 },
    children := [
      { kind := "string", named := true, field := some "source",
        start := { byte := 7 }, stop := { byte := 13 } }] }

/-- The call in the sample. -/
def quotedCall : Tree :=
  { kind := "call_expression", named := true, start := { byte := 15 }, stop := { byte := 29 },
    children := [
      { kind := "identifier", named := true, field := some "function",
        start := { byte := 15 }, stop := { byte := 22 } },
      { kind := "arguments", named := true, field := some "arguments",
        start := { byte := 22 }, stop := { byte := 29 },
        children := [
          { kind := "string", named := true, start := { byte := 23 }, stop := { byte := 28 } }] }] }

/-- The statement around the call in the sample. -/
def quotedStatement : Tree :=
  { kind := "expression_statement", named := true, start := { byte := 15 }, stop := { byte := 29 },
    children := [quotedCall] }

/-- The tree of the sample. -/
def quotedModules : Tree :=
  { kind := "program", named := true, start := { byte := 0 }, stop := { byte := 29 },
    children := [quotedImport, quotedStatement] }

/-- The import at its place in the sample. -/
def importOccurrence : Occurrence := (Occurrence.ofRoot quotedModules).child 0 quotedImport

/-- The call at its place in the sample. -/
def callOccurrence : Occurrence :=
  ((Occurrence.ofRoot quotedModules).child 1 quotedStatement).child 0 quotedCall

/-- The import of the sample is reached from its root. -/
theorem importOccurrence_reached : (Occurrence.ofRoot quotedModules).Reaches importOccurrence :=
  .child .self rfl rfl

/-- The call of the sample is reached from its root. -/
theorem callOccurrence_reached : (Occurrence.ofRoot quotedModules).Reaches callOccurrence :=
  .child (.child .self rfl rfl) rfl rfl

/-- The import of the sample names a module with a quote in it. -/
theorem importOccurrence_namesModule :
    importOccurrence.NamesModule .javaScript quotedText "it's" :=
  ⟨rfl, _, .statement (.inl rfl) rfl, rfl, by decide, .inl rfl⟩

/-- The call of the sample names a module with quotes around it. -/
theorem callOccurrence_namesModule : callOccurrence.NamesModule .javaScript quotedText "'a'" :=
  ⟨rfl, _, .call rfl rfl ⟨rfl, rfl⟩ rfl rfl, rfl, by decide, .inl rfl⟩

/-- A quote of the other kind inside a body is kept, and those at its ends are not. -/
theorem specifier_as_written_iff_sample :
    let nodes := (Occurrence.ofRoot quotedModules).listed
    Language.javaScript ≠ .python ∧
      importOccurrence ∈ nodes ∧ importOccurrence.NamesModule .javaScript quotedText "it's" ∧
      importOccurrence.imports .javaScript quotedText = [⟨"it's", 1⟩] ∧
      callOccurrence ∈ nodes ∧ callOccurrence.NamesModule .javaScript quotedText "'a'" ∧
      callOccurrence.imports .javaScript quotedText ≠ [⟨"'a'", 1⟩] ∧
      callOccurrence.imports .javaScript quotedText ≠ [] := by
  intro nodes
  have hlanguage : Language.javaScript ≠ .python := by decide
  have himport : importOccurrence ∈ nodes := Occurrence.mem_listed.2 importOccurrence_reached
  have hcall : callOccurrence ∈ nodes := Occurrence.mem_listed.2 callOccurrence_reached
  obtain ⟨-, hnodes, -⟩ :=
    specifier_as_written_iff .javaScript hlanguage quotedText "a.js" quotedModules
  obtain ⟨-, hkept, -⟩ := hnodes _ himport _ importOccurrence_namesModule
  obtain ⟨-, hlost, hnone⟩ := hnodes _ hcall _ callOccurrence_namesModule
  refine ⟨hlanguage, himport, importOccurrence_namesModule, hkept.2 ?_, hcall,
    callOccurrence_namesModule, ?_, ?_⟩
  · exact ⟨by simp [isQuote], by simp [isQuote]⟩
  · intro hwritten
    cases (hlost.1 hwritten).1 '\'' rfl
  · intro hempty
    cases hnone.1 hempty 'a' (by simp)

/-- **Quotes at the ends of a body are lost.** -/
theorem quotes_of_body_lost :
    (Occurrence.ofRoot quotedModules).Reaches callOccurrence ∧
      callOccurrence.NamesModule .javaScript quotedText "'a'" ∧
      (fileFacts .javaScript quotedText "a.js" quotedModules).imports
        = [⟨"it's", 1⟩, ⟨"a", 1⟩] :=
  ⟨callOccurrence_reached, callOccurrence_namesModule, by rfl⟩

end CodeGraph.Extraction
