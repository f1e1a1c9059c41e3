import CodeGraph.Proofs.Extraction.Occurrences
import CodeGraph.Proofs.Files.Spelling
import CodeGraph.Proofs.Text.Bytes

/-! # Names that are imported from a module

A name that is imported from a module is recorded as one dotted name
(`Extraction.Python.submodule_text`), and it is taken apart again when the import is resolved.
Dotted names and their texts are in correspondence (`Imports.Dotted.Plain.ofText_text`,
`Imports.Dotted.text_ofText`), so that nothing is lost on the way.

A text can also be cut by counting bytes, which fails where a cut falls into a character. The dots
at the start of a text take one byte each, so that no cut that is made at them fails
(`Imports.pathByBytes_eq`, `Imports.parentByBytes_eq`). -/

namespace CodeGraph

namespace Imports

/-- The dots at the start of a text. -/
def dotsOf (specifier : String) : String := String.ofList (specifier.toList.takeWhile (· == '.'))

/-- A specifier is its leading dots followed by its module's name. -/
theorem dotsOf_append_moduleName (specifier : String) :
    dotsOf specifier ++ moduleName specifier = specifier := by
  rw [← String.toList_inj, dotsOf, moduleName, Text.trimStartWhere, Text.dropStart]
  simp

/-- Each dot at the start takes one byte. -/
theorem utf8ByteSize_dotsOf (specifier : String) :
    (dotsOf specifier).utf8ByteSize = leadingDots specifier := by
  have hsize : ∀ cs : List Char, (∀ c ∈ cs, c = '.') →
      (String.ofList cs).utf8ByteSize = cs.length := by
    intro cs hcs
    induction cs with
    | nil => rfl
    | cons c cs ih =>
      rw [List.forall_mem_cons] at hcs
      rw [String.ofList_cons, String.utf8ByteSize_append, String.utf8ByteSize_singleton, hcs.1,
        ih hcs.2, List.length_cons, Nat.add_comm]
      rfl
  exact hsize _ fun c hc => beq_iff_eq.1 (List.all_eq_true.1 List.all_takeWhile c hc)

/-- The path that a name means in Python after a number of dots. -/
def pathFrom (importer : String) (dots : Nat) (module : String) : String :=
  let name := module.map fun c => if c == '.' then '/' else c
  if dots == 0 then name
  else
    let dir := parentDir importer
    "/".intercalate ((if dir.isEmpty then [] else [dir]) ++ List.replicate (dots - 1) ".."
      ++ (if name.isEmpty then [] else [name]))

/-- The path that a text means in Python, where the name is what follows as many bytes as there are
dots at the start. -/
def pathByBytes (importer specifier : String) : Option String :=
  (Text.sliceFrom? specifier (leadingDots specifier)).map
    (pathFrom importer (leadingDots specifier))

/-- The module that a name in Python is imported from, cut out by bytes: the bytes of the dots are
those that the text has more than the name. -/
def parentByBytes (specifier : String) : Option (Option String) := do
  let dots := specifier.utf8ByteSize - (moduleName specifier).utf8ByteSize
  let module ← Text.sliceFrom? specifier dots
  if module.isEmpty then return none
  else
    let outermost ← Text.sliceTo? specifier dots
    let parent ← match Text.splitLast? '.' module with
      | some (head, _) => Text.sliceTo? specifier (dots + head.utf8ByteSize)
      | none => some outermost
    return if parent.isEmpty then none else some parent

/-- **No cut fails** where the name is cut off. -/
theorem pathByBytes_eq (importer specifier : String) :
    pathByBytes importer specifier = some (pythonPath importer specifier) := by
  have hslice := Text.sliceFrom?_append (dotsOf specifier) (moduleName specifier)
  rw [dotsOf_append_moduleName, utf8ByteSize_dotsOf] at hslice
  rw [pathByBytes, hslice]
  rfl

/-- **No cut fails** where the module around a name is cut out. -/
theorem parentByBytes_eq (specifier : String) :
    parentByBytes specifier = some (pythonParent specifier) := by
  have hjoin := dotsOf_append_moduleName specifier
  have hsize : specifier.utf8ByteSize - (moduleName specifier).utf8ByteSize
      = (dotsOf specifier).utf8ByteSize := by
    have hsum := @String.utf8ByteSize_append (dotsOf specifier) (moduleName specifier)
    rw [hjoin] at hsum
    omega
  have hfrom := Text.sliceFrom?_append (dotsOf specifier) (moduleName specifier)
  have hto := Text.sliceTo?_append (dotsOf specifier) (moduleName specifier)
  rw [hjoin] at hfrom hto
  simp only [parentByBytes, hsize, hfrom, hto, Option.bind_eq_bind, Option.bind_some, pythonParent]
  split
  · rfl
  · cases hsplit : Text.splitLast? '.' (moduleName specifier) with
    | none => rfl
    | some split =>
      obtain ⟨head, last⟩ := split
      -- the text is cut after what stands before the last dot of the name
      have hname : head ++ ("." ++ last) = moduleName specifier := by
        rw [← String.toList_inj, (Text.of_splitLast? hsplit).1]
        simp
      have hcut : dotsOf specifier ++ head ++ ("." ++ last) = specifier := by
        rw [String.append_assoc, hname, hjoin]
      have hhead := Text.sliceTo?_append (dotsOf specifier ++ head) ("." ++ last)
      rw [hcut, String.utf8ByteSize_append] at hhead
      simp only [hhead, Option.bind_some]
      rfl

/-! ## Dotted names and their texts -/

namespace Dotted

/-- The text of a dotted name. -/
def text (m : Dotted) : String :=
  String.ofList (List.replicate m.dots '.') ++ ".".intercalate m.parts

/-- The name inside a module. -/
def child (m : Dotted) (name : String) : Dotted := { m with parts := m.parts ++ [name] }

/-- **Every text is that of the dotted name that it is.** -/
theorem text_ofText (specifier : String) : (ofText specifier).text = specifier := by
  have hdots : String.ofList (List.replicate (leadingDots specifier) '.') = dotsOf specifier := by
    have hall : ∀ c ∈ specifier.toList.takeWhile (· == '.'), c = '.' :=
      fun c hc => beq_iff_eq.1 (List.all_eq_true.1 List.all_takeWhile c hc)
    rw [dotsOf, leadingDots, ← List.eq_replicate_iff.2 ⟨rfl, hall⟩]
  have hname : ".".intercalate (ofText specifier).parts = moduleName specifier := by
    rw [ofText]
    dsimp only
    split
    · next hempty => rw [hempty, String.intercalate_nil]
    · exact Text.join_splitAll rfl _
  rw [text, hname, ofText, hdots, dotsOf_append_moduleName]

/-- A dotted name of plain parts, of which there may be none if it has dots at its start. -/
structure Plain (m : Dotted) : Prop where
  parts : ∀ part ∈ m.parts, PlainName part
  nonempty : m.dots ≠ 0 ∨ m.parts ≠ []

namespace Plain

variable {m : Dotted} {name : String}

/-- **A plain dotted name is read off its text.** -/
theorem ofText_text (h : m.Plain) : ofText m.text = m := by
  obtain ⟨dots, parts⟩ := m
  by_cases hnil : parts = []
  · subst hnil
    have htext := @ofText_append (List.replicate dots '.') []
      (fun c hc => List.eq_of_mem_replicate hc) (by simp)
    simpa [text] using htext
  · have hplain := beginsPlain_intercalate h.parts hnil "." ""
    rw [String.append_empty] at hplain
    rw [text, ofText_dots dots hplain,
      Text.splitAll_join rfl (fun part hpart => (h.parts part hpart).not_mem rfl) hnil]

/-- Cleaning takes nothing away from the text of a `Plain` dotted name. -/
theorem solid_text (h : m.Plain) : Solid m.text :=
  (solid_dots m.dots).append (solid_intercalate solid_dot fun part hpart =>
    (h.parts part hpart).solid)

/-- A `Plain` dotted name is not written as the empty text. -/
theorem text_ne_empty (h : m.Plain) : m.text ≠ "" := by
  intro hempty
  have hname := h.ofText_text
  rw [hempty] at hname
  rcases h.nonempty with hdots | hparts
  · exact hdots (hname ▸ rfl)
  · exact hparts (hname ▸ rfl)

/-- A plain name inside a `Plain` module gives a `Plain` dotted name. -/
theorem child (h : m.Plain) (hname : PlainName name) : (m.child name).Plain := by
  refine ⟨fun part hpart => ?_, .inr (by simp [Dotted.child])⟩
  rcases List.mem_append.1 hpart with hpart | hpart
  · exact h.parts part hpart
  · exact List.mem_singleton.1 hpart ▸ hname

/-- Around a name inside a module is the module itself. -/
theorem outer?_child (h : m.Plain) : (m.child name).outer? = some m := by
  rw [outer?, if_neg]
  · simp [Dotted.child]
  · rintro (hnil | ⟨hdots, hone⟩)
    · simp [Dotted.child] at hnil
    · rcases h.nonempty with hne | hne
      · exact hne hdots
      · simp [Dotted.child, hne] at hone

/-- **A name inside a module has that module around it.** -/
theorem pythonParent_child (h : m.Plain) (hname : PlainName name) :
    pythonParent (m.child name).text = some m.text := by
  have houter := ofText_pythonParent (m.child name).text
  rw [(h.child hname).ofText_text, h.outer?_child] at houter
  obtain ⟨parent, hparent, hm⟩ := Option.map_eq_some_iff.1 houter
  rw [hparent, ← text_ofText parent, hm]

end Plain

end Dotted

/-! ## Resolving a name inside a module -/

/-- Taking one more proper step leads to that name, wherever the steps before led to. -/
theorem takeSteps_concat {kept steps : List String} {name : String} (h : ProperName name) :
    takeSteps kept (steps ++ [name]) = (takeSteps kept steps).map (· ++ [name]) := by
  induction steps generalizing kept with
  | nil => simp [takeSteps, h.ne_empty, h.ne_dot, h.ne_dots]
  | cons step steps ih =>
    simp only [List.cons_append, takeSteps]
    split
    · exact ih
    · split
      · cases kept with
        | nil => rfl
        | cons last kept => exact ih
      · exact ih

/-- A name after the steps of a path leads to that name below the path. -/
theorem follow_names_concat (path : String) {name : String} (h : ProperName name) :
    follow (FileTree.names path ++ [name]) = (normalize path).map fun p => below p name := by
  have hslash : ∀ step ∈ FileTree.names path, '/' ∉ step.toList :=
    fun step hstep => Text.not_mem_of_mem_splitAll (List.mem_of_mem_filter hstep)
  rw [normalize_eq_follow, follow, follow, takeSteps_concat h]
  cases htaken : takeSteps [] (FileTree.names path) with
  | none => rfl
  | some ns =>
    have hproper := properName_of_mem_takeSteps (List.forall_mem_nil _) hslash htaken
    rw [Option.map_some, Option.map_some, Option.map_some, Option.map_some,
      below_intercalate hproper]

/-- **A name inside a module** means a file below the path of the module or else the module. -/
theorem Dotted.Plain.value_resolve_child {m : Dotted} {name : String} (h : m.Plain)
    (hname : PlainName name) (isFile : String → Bool) (importer : String) :
    (resolve isFile importer (m.child name).text .python).value
      = (normalize (pythonPath importer m.text)).bind fun path =>
        (probe isFile (below path name)).or (probe isFile path) := by
  have hchild := h.child hname
  have hclean : cleanSpecifier (m.child name).text = some (m.child name).text := by
    have hsolid := cleanSpecifier_append hchild.text_ne_empty hchild.solid_text ""
    rwa [cleanEnd_empty, String.append_empty] at hsolid
  have hmodule : m.steps importer = FileTree.names (pythonPath importer m.text) := by
    rw [names_pythonPath, h.ofText_text]
  have hsteps : (m.child name).steps importer
      = FileTree.names (pythonPath importer m.text) ++ [name] := by
    have hone : FileTree.names name = [name] := by
      have hnames := ProperNames.names ⟨List.cons_ne_nil name [], by simpa using hname.proper⟩
      rwa [String.intercalate_singleton] at hnames
    rw [← hmodule, Dotted.steps, Dotted.steps, Dotted.child, List.append_assoc,
      List.flatMap_append, List.flatMap_singleton, hone]
  rw [value_resolve_python, hclean, Option.bind_some, hchild.ofText_text, Dotted.find?, hsteps,
    h.outer?_child, Option.bind_some, hmodule, follow_names_concat _ hname.proper,
    ← normalize_eq_follow]
  cases normalize (pythonPath importer m.text) <;> rfl

end Imports

/-! ## Recording a name inside a module -/

namespace Extraction

open Imports (Dotted PlainName)

/-- A text ends with a dot exactly when its last character is one. -/
theorem endsWith_dot_iff (s : String) : s.endsWith "." ↔ s.toList.getLast? = some '.' := by
  rw [String.endsWith, String.Slice.endsWith_string_iff, String.copy_toSlice,
    List.getLast?_eq_some_iff]
  constructor
  · rintro ⟨before, hbefore⟩
    exact ⟨before, hbefore.symm⟩
  · rintro ⟨before, hbefore⟩
    exact ⟨before, hbefore.symm⟩

namespace Python

/-- A text does not end in a dot if it ends in a plain name. -/
theorem getLast?_ne_of_plain {name : String} (h : PlainName name) (start : List Char) :
    (start ++ name.toList).getLast? ≠ some '.' := by
  intro hlast
  have hne : name.toList ≠ [] := fun hnil => h.ne_empty (String.toList_eq_nil_iff.1 hnil)
  have hdot : '.' ∉ name.toList := h.not_mem rfl
  rw [List.getLast?_append_of_ne_nil _ hne] at hlast
  exact hdot (List.mem_of_getLast? hlast)

/-- The text of a module ends in a dot exactly if it has nothing but dots. -/
theorem endsWith_text_iff {m : Dotted} (h : m.Plain) : m.text.endsWith "." ↔ m.parts = [] := by
  rw [endsWith_dot_iff, Dotted.text, String.toList_append, String.toList_ofList]
  constructor
  · intro hlast
    by_contra hne
    obtain ⟨before, part, hparts⟩ := (List.eq_nil_or_concat' m.parts).resolve_left hne
    obtain ⟨start, hstart⟩ : ∃ start, (".".intercalate m.parts).toList = start ++ part.toList := by
      rw [hparts]
      by_cases hbefore : before = []
      · exact ⟨[], by simp [hbefore]⟩
      · rw [String.intercalate_append_of_ne_nil hbefore (List.cons_ne_nil _ _),
          String.intercalate_singleton, String.toList_append]
        exact ⟨_, rfl⟩
    rw [hstart, ← List.append_assoc] at hlast
    exact getLast?_ne_of_plain (h.parts part (by simp [hparts])) _ hlast
  · intro hnil
    have hdots : m.dots ≠ 0 := h.nonempty.resolve_right fun hne => hne hnil
    simp [hnil, hdots, List.getLast?_replicate]

/-- **A name inside a module is recorded as one dotted name.** -/
theorem submodule_text {m : Dotted} (h : m.Plain) (name : String) :
    submodule m.text name = (m.child name).text := by
  rw [submodule]
  split
  · next hends =>
    have hnil := (endsWith_text_iff h).1 hends
    simp [Dotted.text, Dotted.child, hnil]
  · next hends =>
    have hne : m.parts ≠ [] := fun hnil => hends ((endsWith_text_iff h).2 hnil)
    rw [Dotted.text, Dotted.text, Dotted.child,
      String.intercalate_append_of_ne_nil hne (List.cons_ne_nil _ _), String.intercalate_singleton,
      String.append_assoc, String.append_assoc, String.append_assoc]

/-- A statement that imports a name from a module, by the texts of both. -/
structure FromImport (source : String) (t : Tree) (module name : String) : Prop where
  kind : t.kind = "import_from_statement"
  module : ∃ node, t.childByField "module_name" = some node ∧ node.text source = module
  name : ∃ node ∈ t.childrenByField "name", importedName source node = some name

/-- A statement that imports a name from a module is classified as an import of both, the name as a
submodule. -/
theorem FromImport.exists_classify {source module name : String} {t : Tree}
    (h : FromImport source t module name) (hmodule : module ≠ "") (place : Option Place) :
    ∃ specifiers, classify source place t = .imports specifiers ∧
      submodule module name ∈ specifiers := by
  obtain ⟨node, hnode, htext⟩ := h.module
  obtain ⟨listed, hlisted, himported⟩ := h.name
  have hmem : name ∈ (t.childrenByField "name").filterMap (importedName source) :=
    List.mem_filterMap.2 ⟨listed, hlisted, himported⟩
  have hnames : (t.childrenByField "name").filterMap (importedName source) ≠ [] :=
    List.ne_nil_of_mem hmem
  refine ⟨_, ?_, List.mem_map_of_mem hmem⟩
  simp [classify, h.kind, hnode, htext, hmodule, hnames]

end Python

/-- **What a statement imports from a module is recorded** as a name inside that module, if no
function is around the statement. -/
theorem Python.FromImport.mem_imports {source module name : String} {root : Tree} {o : Occurrence}
    (h : FromImport source o.node module name) (hmodule : module ≠ "")
    (hreaches : (Occurrence.ofRoot root).Reaches o) (hout : o.isInFunction .python source = false)
    (path : String) :
    ⟨submodule module name, o.node.line⟩ ∈ (fileFacts .python source path root).imports := by
  obtain ⟨specifiers, hclassify, hmem⟩ := h.exists_classify hmodule o.place
  have hconstruct : o.construct .python source = .imports specifiers := hclassify
  rw [imports_fileFacts, List.mem_flatMap]
  refine ⟨o, Occurrence.mem_listed.2 hreaches, ?_⟩
  rw [Occurrence.imports, hout, hconstruct]
  exact List.mem_map_of_mem hmem

/-- **Recording and resolving agree on names that are imported from a module**, for every module
text of dots and plain names, in which either may be missing, and every plain name. The module
around what is recorded is the module. What is recorded means, in every tree and from every file,
what the path of the module with the name below it can stand for, or else what the path of the
module can stand for, and nothing if that path leaves the root. And for every text at all, to cut it
by bytes never fails and gives what is cut out by characters. -/
theorem from_imports_agree (m : Dotted) (name : String) (h : m.Plain) (hname : PlainName name) :
    let module := m.text
    let specifier := Python.submodule module name
    Imports.pythonParent specifier = some module ∧
      (∀ (source path : String) (root : Tree) (o : Occurrence),
        (Occurrence.ofRoot root).Reaches o → o.isInFunction .python source = false →
        Python.FromImport source o.node module name →
        ⟨specifier, o.node.line⟩ ∈ (fileFacts .python source path root).imports) ∧
      (∀ (t : FileTree) (root : List String) (importer : String),
        let isFile := Run.isFileBelow t root
        (Imports.resolve isFile importer specifier .python).value
          = (Imports.normalize (Imports.pythonPath importer module)).bind fun path =>
            (Imports.probe isFile (Imports.below path name)).or (Imports.probe isFile path)) ∧
      ∀ importer text, Imports.pathByBytes importer text = some (Imports.pythonPath importer text) ∧
        Imports.parentByBytes text = some (Imports.pythonParent text) := by
  intro module specifier
  have hspecifier : specifier = (m.child name).text := Python.submodule_text h name
  refine ⟨?_, fun source path root o hreaches hout hfrom => ?_, fun t root importer => ?_,
    fun importer text => ⟨Imports.pathByBytes_eq importer text, Imports.parentByBytes_eq text⟩⟩
  · rw [hspecifier]
    exact h.pythonParent_child hname
  · exact hfrom.mem_imports h.text_ne_empty hreaches hout path
  · rw [hspecifier]
    exact h.value_resolve_child hname _ importer

/-- A name beyond ASCII in a module one level up. -/
theorem from_imports_agree_beyond_ascii :
    let t : FileTree :=
      { root := .dir [("repo", .dir [("shared.py", .file "größe = 1\n".toUTF8)])] }
    let isFile := Run.isFileBelow t ["repo"]
    Dotted.Plain ⟨2, ["shared"]⟩ ∧ PlainName "größe" ∧
      Imports.pythonParent (Python.submodule "..shared" "größe") = some "..shared" ∧
      (Imports.resolve isFile "pkg/mod.py" (Python.submodule "..shared" "größe") .python).value
        = (Imports.normalize (Imports.pythonPath "pkg/mod.py" "..shared")).bind fun path =>
          (Imports.probe isFile (Imports.below path "größe")).or (Imports.probe isFile path) := by
  intro t isFile
  have hshared : PlainName "shared" :=
    ⟨by simp, by simp [Imports.isPlain, Imports.isSolid, Text.isBlank]⟩
  have hname : PlainName "größe" :=
    ⟨by simp, by simp [Imports.isPlain, Imports.isSolid, Text.isBlank]⟩
  have hplain : Dotted.Plain ⟨2, ["shared"]⟩ := ⟨by simpa using hshared, .inl (by decide)⟩
  obtain ⟨hparent, -, hresolve, -⟩ := from_imports_agree ⟨2, ["shared"]⟩ "größe" hplain hname
  exact ⟨hplain, hname, hparent, hresolve t ["repo"] "pkg/mod.py"⟩

end Extraction

end CodeGraph
