import CodeGraph.Proofs.Command.Extract
import CodeGraph.Proofs.Files.Writing
import CodeGraph.Proofs.Graph.Consistency
import CodeGraph.Proofs.Graph.Decoding

/-! # What commands print is read back

Commands print the facts of a file and write the snapshot of a graph to a file, both as JSON over
several lines. Whoever reads these texts has the facts and the snapshot again. The text of a
snapshot is what is read at the path to which it was exported (`Store.exists_place_of_exportTo`). Of
the facts this holds exactly if their lines fit in 64 bits, which are the numbers that a reader
takes (`FileFacts.fits_of_ofJson?`), and it holds as well if callers that are missing are not
written at all (`FileFacts.decode_printed`). -/

namespace CodeGraph

open Json (Readable)

/-! ## Numbers and lists -/

/-- A field that holds a number of 64 bits is read by `natField?`. -/
theorem Json.natField?_of_field? {j : Json} {name : String} {n : Nat}
    (hfield : j.field? name = some (.nat n)) (hn : n < wordSize) : j.natField? name = some n := by
  rw [natField?, hfield, Option.bind_some, asNat?_nat hn]

/-- `natField?` reads no number beyond 64 bits. -/
theorem Json.lt_of_natField? {j : Json} {name : String} {n : Nat} (h : j.natField? name = some n) :
    n < wordSize := by
  obtain ⟨v, -, hv⟩ := Option.bind_eq_some_iff.1 h
  cases v with
  | number k =>
    cases k with
    | whole m =>
      rw [asNat?] at hv
      split at hv
      · next hm =>
        simp only [Bool.and_eq_true, decide_eq_true_eq] at hm
        rw [Option.some.injEq] at hv
        omega
      · cases hv
    | decimal text => cases hv
  | _ => cases hv

/-- Whatever `listField?` reads was decoded item by item. -/
theorem Json.exists_of_mem_listField? {α : Type} {j : Json} {name : String}
    {decode : Json → Option α} {xs : List α} (h : j.listField? name decode = some xs) :
    ∀ x ∈ xs, ∃ v, decode v = some x := by
  obtain ⟨items, -, hitems⟩ := Option.bind_eq_some_iff.1 h
  clear h
  induction items generalizing xs with
  | nil =>
    cases hitems
    simp
  | cons v items ih =>
    rw [List.mapM_cons] at hitems
    obtain ⟨x, hx, hrest⟩ := Option.bind_eq_some_iff.1 hitems
    obtain ⟨xs', hxs', heq⟩ := Option.bind_eq_some_iff.1 hrest
    cases heq
    rintro y (_ | ⟨_, hy⟩)
    · exact ⟨v, hx⟩
    · exact ih hxs' y hy

/-! ## Single facts

What is read of a value depends on its fields only. Each kind of fact has a lemma that says so; with
it, a printed fact is read back without evaluating the bound on its line. -/

namespace FunctionFact

variable {f : FunctionFact}

/-- A value with the fields of a function, and no others, is read as the function. -/
theorem ofJson?_of_fields {j : Json} (hrecord : j.asRecord? ["name", "file", "line"] = some j)
    (hname : j.stringField? "name" = some f.name) (hfile : j.stringField? "file" = some f.file)
    (hline : j.natField? "line" = some f.line) : ofJson? j = some f := by
  simp only [ofJson?, hrecord, hname, hfile, hline, Option.bind_eq_bind, Option.bind_some,
    Option.pure_def]

/-- A `FunctionFact` is read back from its JSON if its line fits in 64 bits. -/
theorem ofJson?_toJson (h : f.line < Json.wordSize) : ofJson? f.toJson = some f :=
  ofJson?_of_fields rfl rfl rfl (Json.natField?_of_field? rfl h)

/-- A `FunctionFact` that was read has a line that fits in 64 bits. -/
theorem lt_of_ofJson? {j : Json} (h : ofJson? j = some f) : f.line < Json.wordSize := by
  simp only [ofJson?, Option.bind_eq_bind, Option.bind_eq_some_iff] at h
  obtain ⟨record, -, name, -, file, -, line, hline, heq⟩ := h
  cases heq
  exact Json.lt_of_natField? hline

/-- The JSON of a `FunctionFact` opens one object. -/
theorem readable_toJson (d : Nat) (h : f.line < Json.wordSize) : Readable (d + 1) f.toJson :=
  .object (by simp [Readable.string, Readable.nat d h])

end FunctionFact

namespace ClassFact

variable {c : ClassFact}

/-- A value with the fields of a class, and no others, is read as the class. -/
theorem ofJson?_of_fields {j : Json}
    (hrecord : j.asRecord? ["name", "file", "bases", "line"] = some j)
    (hname : j.stringField? "name" = some c.name) (hfile : j.stringField? "file" = some c.file)
    (hbases : j.listField? "bases" Json.asString? = some c.bases)
    (hline : j.natField? "line" = some c.line) : ofJson? j = some c := by
  simp only [ofJson?, hrecord, hname, hfile, hbases, hline, Option.bind_eq_bind, Option.bind_some,
    Option.pure_def]

/-- A `ClassFact` is read back from its JSON if its line fits in 64 bits. -/
theorem ofJson?_toJson (h : c.line < Json.wordSize) : ofJson? c.toJson = some c :=
  ofJson?_of_fields rfl rfl rfl (Json.mapM_strings c.bases) (Json.natField?_of_field? rfl h)

/-- A `ClassFact` that was read has a line that fits in 64 bits. -/
theorem lt_of_ofJson? {j : Json} (h : ofJson? j = some c) : c.line < Json.wordSize := by
  simp only [ofJson?, Option.bind_eq_bind, Option.bind_eq_some_iff] at h
  obtain ⟨record, -, name, -, file, -, bases, -, line, hline, heq⟩ := h
  cases heq
  exact Json.lt_of_natField? hline

/-- The JSON of a `ClassFact` is an object with the array of its bases inside. -/
theorem readable_toJson (d : Nat) (h : c.line < Json.wordSize) : Readable (d + 2) c.toJson := by
  have hbases : Readable (d + 1) (.strings c.bases) :=
    Json.readable_map fun s _ => .string d s
  exact .object (by simp [Readable.string, Readable.nat (d + 1) h, hbases])

end ClassFact

namespace ImportFact

variable {i : ImportFact}

/-- A value with the fields of an import, and no others, is read as the import. -/
theorem ofJson?_of_fields {j : Json} (hrecord : j.asRecord? ["specifier", "line"] = some j)
    (hspecifier : j.stringField? "specifier" = some i.specifier)
    (hline : j.natField? "line" = some i.line) : ofJson? j = some i := by
  simp only [ofJson?, hrecord, hspecifier, hline, Option.bind_eq_bind, Option.bind_some,
    Option.pure_def]

/-- An `ImportFact` is read back from its JSON if its line fits in 64 bits. -/
theorem ofJson?_toJson (h : i.line < Json.wordSize) : ofJson? i.toJson = some i :=
  ofJson?_of_fields rfl rfl (Json.natField?_of_field? rfl h)

/-- An `ImportFact` that was read has a line that fits in 64 bits. -/
theorem lt_of_ofJson? {j : Json} (h : ofJson? j = some i) : i.line < Json.wordSize := by
  simp only [ofJson?, Option.bind_eq_bind, Option.bind_eq_some_iff] at h
  obtain ⟨record, -, specifier, -, line, hline, heq⟩ := h
  cases heq
  exact Json.lt_of_natField? hline

/-- The JSON of an `ImportFact` opens one object. -/
theorem readable_toJson (d : Nat) (h : i.line < Json.wordSize) : Readable (d + 1) i.toJson :=
  .object (by simp [Readable.string, Readable.nat d h])

end ImportFact

namespace CallFact

variable {c : CallFact} {j : Json}

/-- Whether a value writes a call: as it is printed, or without a caller if there is none. -/
inductive Writes (c : CallFact) : Json → Prop where
  | printed : Writes c c.toJson
  | short (h : c.caller = none) :
    Writes c (.object [("callee", .string c.callee), ("line", .nat c.line)])

/-- A value with the fields of a call, of which `caller` may be missing, is read as the call. -/
theorem ofJson?_of_fields (hrecord : j.asRecord? ["caller", "callee", "line"] = some j)
    (hcaller : j.optStringField? "caller" = some c.caller)
    (hcallee : j.stringField? "callee" = some c.callee)
    (hline : j.natField? "line" = some c.line) : ofJson? j = some c := by
  simp only [ofJson?, hrecord, hcaller, hcallee, hline, Option.bind_eq_bind, Option.bind_some,
    Option.pure_def]

/-- A `CallFact` is read back from every value that `Writes` it. -/
theorem Writes.ofJson?_eq (hw : c.Writes j) (h : c.line < Json.wordSize) : ofJson? j = some c := by
  cases hw with
  | printed =>
    refine ofJson?_of_fields rfl ?_ rfl (Json.natField?_of_field? rfl h)
    obtain ⟨caller, callee, line⟩ := c
    cases caller <;> rfl
  | short hcaller =>
    refine ofJson?_of_fields rfl ?_ rfl (Json.natField?_of_field? rfl h)
    rw [hcaller]
    rfl

/-- A `CallFact` that was read has a line that fits in 64 bits. -/
theorem lt_of_ofJson? (h : ofJson? j = some c) : c.line < Json.wordSize := by
  simp only [ofJson?, Option.bind_eq_bind, Option.bind_eq_some_iff] at h
  obtain ⟨record, -, caller, -, callee, -, line, hline, heq⟩ := h
  cases heq
  exact Json.lt_of_natField? hline

/-- Every value that `Writes` a call opens one object. -/
theorem Writes.readable (d : Nat) (hw : c.Writes j) (h : c.line < Json.wordSize) :
    Readable (d + 1) j := by
  cases hw with
  | printed =>
    exact .object (by
      simp [Readable.string, Readable.nat d h, Json.readable_optString d c.caller])
  | short => exact .object (by simp [Readable.string, Readable.nat d h])

end CallFact

/-! ## Facts of a file -/

namespace FileFacts

variable {f : FileFacts} {calls : List Json}

/-- Whether the lines of all facts fit in 64 bits. -/
structure Fits (f : FileFacts) : Prop where
  functions : ∀ x ∈ f.functions, x.line < Json.wordSize
  classes : ∀ x ∈ f.classes, x.line < Json.wordSize
  imports : ∀ x ∈ f.imports, x.line < Json.wordSize
  calls : ∀ x ∈ f.calls, x.line < Json.wordSize

/-- The facts of a file as JSON, its calls as they are given. -/
def toJsonWith (f : FileFacts) (calls : List Json) : Json :=
  .object [("path", .string f.path), ("name", .string f.name),
    ("language", .string f.language.name),
    ("functions", .array (f.functions.map FunctionFact.toJson)),
    ("classes", .array (f.classes.map ClassFact.toJson)),
    ("imports", .array (f.imports.map ImportFact.toJson)),
    ("calls", .array calls)]

/-- `FileFacts.toJson` writes each call with its `caller`, whether there is one or not. -/
theorem toJson_eq (f : FileFacts) : f.toJson = f.toJsonWith (f.calls.map CallFact.toJson) := rfl

/-- Only facts whose lines fit in 64 bits can be read. -/
theorem fits_of_ofJson? {j : Json} (h : ofJson? j = some f) : f.Fits := by
  simp only [ofJson?, Option.bind_eq_bind, Option.bind_eq_some_iff] at h
  obtain ⟨record, -, path, -, name, -, language, -, functions, hfunctions, classes, hclasses,
    imports, himports, calls, hcalls, heq⟩ := h
  cases heq
  refine ⟨fun x hx => ?_, fun x hx => ?_, fun x hx => ?_, fun x hx => ?_⟩
  · obtain ⟨v, hv⟩ := Json.exists_of_mem_listField? hfunctions x hx
    exact FunctionFact.lt_of_ofJson? hv
  · obtain ⟨v, hv⟩ := Json.exists_of_mem_listField? hclasses x hx
    exact ClassFact.lt_of_ofJson? hv
  · obtain ⟨v, hv⟩ := Json.exists_of_mem_listField? himports x hx
    exact ImportFact.lt_of_ofJson? hv
  · obtain ⟨v, hv⟩ := Json.exists_of_mem_listField? hcalls x hx
    exact CallFact.lt_of_ofJson? hv

/-- Facts that `Fits` have calls whose lines fit, next to the values that write them. -/
theorem Fits.forall₂_calls (hf : f.Fits) (hcalls : List.Forall₂ CallFact.Writes f.calls calls) :
    List.Forall₂ (fun c j => c.line < Json.wordSize ∧ c.Writes j) f.calls calls :=
  List.forall₂_and_left _ _ |>.2 ⟨hf.calls, hcalls⟩

/-- **The facts of a file are read back** from their JSON, with each call written either way. -/
theorem ofJson?_toJsonWith (hf : f.Fits) (hcalls : List.Forall₂ CallFact.Writes f.calls calls) :
    ofJson? (f.toJsonWith calls) = some f := by
  have hlanguage : Language.ofName? f.language.name = some f.language := by
    cases f.language <;> rfl
  have hread : ofJson? (f.toJsonWith calls)
      = (Language.ofName? f.language.name).bind fun language =>
          ((f.functions.map FunctionFact.toJson).mapM FunctionFact.ofJson?).bind fun functions =>
          ((f.classes.map ClassFact.toJson).mapM ClassFact.ofJson?).bind fun classes =>
          ((f.imports.map ImportFact.toJson).mapM ImportFact.ofJson?).bind fun imports =>
          (calls.mapM CallFact.ofJson?).bind fun calls =>
            some ⟨f.path, f.name, language, functions, classes, imports, calls⟩ := rfl
  have hdecoded : List.Forall₂ (fun c j => CallFact.ofJson? j = some c) f.calls calls :=
    (hf.forall₂_calls hcalls).imp fun c j h => h.2.ofJson?_eq h.1
  rw [hread, hlanguage, Json.mapM_map fun x hx => FunctionFact.ofJson?_toJson (hf.functions x hx),
    Json.mapM_map fun x hx => ClassFact.ofJson?_toJson (hf.classes x hx),
    Json.mapM_map fun x hx => ImportFact.ofJson?_toJson (hf.imports x hx),
    Json.mapM_of_forall₂ hdecoded]
  rfl

/-- The JSON of a file's facts is within the depth that `Json.parse?` allows: its
classes, with the arrays of their bases, lie deepest. -/
theorem readable_toJsonWith (hf : f.Fits) (hcalls : List.Forall₂ CallFact.Writes f.calls calls) :
    Readable Json.Reading.maxDepth (f.toJsonWith calls) := by
  have hfunctions : Readable 126 (.array (f.functions.map FunctionFact.toJson)) :=
    Json.readable_map fun x hx => FunctionFact.readable_toJson 124 (hf.functions x hx)
  have hclasses : Readable 126 (.array (f.classes.map ClassFact.toJson)) :=
    Json.readable_map fun x hx => ClassFact.readable_toJson 123 (hf.classes x hx)
  have himports : Readable 126 (.array (f.imports.map ImportFact.toJson)) :=
    Json.readable_map fun x hx => ImportFact.readable_toJson 124 (hf.imports x hx)
  have hcalls : Readable 126 (.array calls) := by
    have heach : List.Forall₂ (fun j (_ : CallFact) => Readable 125 j ∧ True) calls f.calls :=
      (hf.forall₂_calls hcalls).flip.imp fun j c h => ⟨h.2.readable 124 h.1, trivial⟩
    exact .array ((List.forall₂_and_left _ _).1 heach).1
  exact .object (d := 126) (by
    simp [Readable.string, hfunctions, hclasses, himports, hcalls])

/-- **Facts that are printed are read back**, whether or not a caller that is missing is written. -/
theorem decode_printed (hf : f.Fits) (hcalls : List.Forall₂ CallFact.Writes f.calls calls) :
    (Json.parse? ((f.toJsonWith calls).pretty ++ "\n")).bind ofJson? = some f := by
  have hblank : ∀ c ∈ "\n".toList, Json.Token.isBlank c := by simp [Json.Token.isBlank]
  rw [(readable_toJsonWith hf hcalls).parse?_pretty_append hblank, Option.bind_some,
    ofJson?_toJsonWith hf hcalls]

/-- The values that `FileFacts.toJson` prints for the calls write them. -/
theorem forall₂_writes_toJson (f : FileFacts) :
    List.Forall₂ CallFact.Writes f.calls (f.calls.map CallFact.toJson) :=
  List.forall₂_map_right_iff.2 (List.forall₂_same.2 fun _ _ => .printed)

end FileFacts

/-! ## Exports and printed facts -/

/-- `Store.exportTo` succeeds exactly if `FileTree.write` does, and leaves the same files. -/
theorem Store.value_exportTo_eq_ok_iff {s : Store} {tree tree' : FileTree} {path : String} :
    (s.exportTo tree path).value = .ok tree' ↔ tree.write path s.exportText.toUTF8 = .ok tree' := by
  unfold exportTo
  cases tree.write path s.exportText.toUTF8 with
  | error e =>
    constructor
    · intro h
      cases h
    · intro h
      cases h
  | ok t =>
    dsimp only
    rw [Logged.value_bind, Logged.value_pure, Except.ok.injEq, Except.ok.injEq]

/-- **An export is read at its path.** It is in a file at the place that the path leads to, and can
be read there unless that file may not be read; every other file holds what it held. -/
theorem Store.exists_place_of_exportTo {s : Store} {tree tree' : FileTree} {path : String}
    (h : (s.exportTo tree path).value = .ok tree') :
    ∃ place, tree'.resolve path = .ok place ∧
      tree'.root.at? place = some (.file s.exportText.toUTF8) ∧
      tree'.readText path
        = (if place ∈ tree.locked then .error .notPermitted else .ok s.exportText) ∧
      ∀ other bytes, other ≠ place →
        (tree'.root.at? other = some (.file bytes) ↔ tree.root.at? other = some (.file bytes)) := by
  have hwrite := Store.value_exportTo_eq_ok_iff.1 h
  obtain ⟨place, hplace, hat, -, hsame⟩ := FileTree.exists_place_of_write hwrite
  refine ⟨place, hplace, hat, FileTree.readText_of_write hwrite hplace,
    fun other bytes hother => ?_⟩
  rw [← Entry.own_eq_file_iff, hsame other hother, Entry.own_eq_file_iff]

namespace Command

/-- **When `Command.runExtract` succeeds**: the file can be read and its source gives facts, which
are what is printed. -/
theorem value_runExtract_eq_ok_iff {options : ExtractOptions} {tree : FileTree} {printed : String} :
    (runExtract options tree).value = .ok printed ↔
      ∃ text facts, tree.readText options.file = .ok text ∧
        (Source.extract options.tolerant (Path.slashed options.file) text).value = .ok facts ∧
        printed = facts.toJson.pretty ++ "\n" := by
  cases hread : tree.readText options.file with
  | error e =>
    rw [value_runExtract_of_unreadable hread]
    simp
  | ok text =>
    rw [value_runExtract_of_text hread]
    cases hextract : (Source.extract options.tolerant (Path.slashed options.file) text).value with
    | error e => simp [hextract]
    | ok facts => simp [hextract, eq_comm]

/-- **What commands write is read back.** An exported graph is written as a text to the place that
the path leads to, and no other file changes. The text is read at that path, unless the file may not
be read, and it gives the snapshot of the graph. The facts of a file are printed as a text that
gives them again, and so does a text that leaves out callers that are missing, provided that their
lines are numbers that a reader takes. -/
theorem written_json_is_read_back (calls : List Store.Call) (tree : FileTree) (f : FileFacts) :
    let s := Store.empty.performAll calls
    (∀ path tree', (s.exportTo tree path).value = .ok tree' ↔
        tree.write path s.exportText.toUTF8 = .ok tree') ∧
      (∀ path tree', (s.exportTo tree path).value = .ok tree' →
        ∃ place, tree'.resolve path = .ok place ∧
          tree'.root.at? place = some (.file s.exportText.toUTF8) ∧
          tree'.readText path
            = (if place ∈ tree.locked then .error .notPermitted else .ok s.exportText) ∧
          ∀ other bytes, other ≠ place →
            (tree'.root.at? other = some (.file bytes) ↔
              tree.root.at? other = some (.file bytes))) ∧
      String.fromUTF8? s.exportText.toUTF8 = some s.exportText ∧
      (Json.parse? s.exportText).bind Snapshot.ofJson? = some s.snapshot ∧
      (∀ options printed, (runExtract options tree).value = .ok printed ↔
        ∃ text facts, tree.readText options.file = .ok text ∧
          (Source.extract options.tolerant (Path.slashed options.file) text).value = .ok facts ∧
          printed = facts.toJson.pretty ++ "\n") ∧
      ((Json.parse? (f.toJson.pretty ++ "\n")).bind FileFacts.ofJson? = some f ↔ f.Fits) ∧
      ∀ js, List.Forall₂ CallFact.Writes f.calls js →
        ((Json.parse? ((f.toJsonWith js).pretty ++ "\n")).bind FileFacts.ofJson? = some f
          ↔ f.Fits) := by
  intro s
  -- the text that is printed is the case in which every caller is written, so this is shown once
  have hfacts : ∀ js, List.Forall₂ CallFact.Writes f.calls js →
      ((Json.parse? ((f.toJsonWith js).pretty ++ "\n")).bind FileFacts.ofJson? = some f
        ↔ f.Fits) := by
    intro js hjs
    constructor
    · intro hdecode
      obtain ⟨j, -, hj⟩ := Option.bind_eq_some_iff.1 hdecode
      exact FileFacts.fits_of_ofJson? hj
    · exact fun hf => FileFacts.decode_printed hf hjs
  refine ⟨fun path tree' => Store.value_exportTo_eq_ok_iff,
    fun path tree' => Store.exists_place_of_exportTo, Text.fromUTF8?_toUTF8 _, s.decode_exportText,
    fun options printed => value_runExtract_eq_ok_iff, ?_, hfacts⟩
  rw [FileFacts.toJson_eq]
  exact hfacts _ f.forall₂_writes_toJson

/-- A directory with a link to a file that is not there yet. -/
def linkedTree : FileTree :=
  { root := .dir [("out", .dir [("g.json", .link "real.json")])], workDir := ["out"] }

/-- In the sample a file is written where the link leads. -/
theorem write_linkedTree (bytes : ByteArray) :
    linkedTree.write "g.json" bytes = .ok (linkedTree.put ["out", "real.json"] (.file bytes)) := by
  have hpath : FileTree.names "g.json" = ["g.json"] ∧ FileTree.endsInDirectory "g.json" = false ∧
      FileTree.isAbsolute "g.json" = false := by cbv
  have htarget : FileTree.names "real.json" = ["real.json"] ∧
      FileTree.isAbsolute "real.json" = false := by cbv
  have hout : linkedTree.root.at? ["out"] = some (.dir [("g.json", .link "real.json")]) := rfl
  have hplace : FileTree.writePlace linkedTree.root FileTree.maxLinks ["out"] ["g.json"]
      = .ok ["out", "real.json"] := by
    simp [FileTree.writePlace, hout, htarget, FileTree.maxLinks, List.lookup]
  have hbase : linkedTree.base "g.json" = ["out"] := by
    rw [FileTree.base, hpath.2.2]
    rfl
  rw [FileTree.write, hbase, hpath.1, hplace, hpath.2.1]
  rfl

/-- A graph with a quote, a backslash, a tab and a character beyond the first plane in its texts,
exported through a link and read there; and facts with a call whose caller is left out. -/
theorem written_json_is_read_back_through_link :
    let op : Upsert := .file "a\"\\.py" "\t😀"
    let s := Store.empty.performAll [.apply ((Batch.empty "a\"\\.py").pushAll [op])]
    let f : FileFacts :=
      { path := "a.py", name := "a", language := .python, functions := [], classes := [],
        imports := [], calls := [⟨none, "f", 1⟩] }
    (∃ tree' text, (s.exportTo linkedTree "g.json").value = .ok tree' ∧
        tree'.root.at? ["out", "real.json"] = some (.file text.toUTF8) ∧
        tree'.readText "g.json" = .ok text ∧
        (Json.parse? text).bind Snapshot.ofJson? = some s.snapshot) ∧
      (Json.parse? ((f.toJsonWith [.object [("callee", .string "f"), ("line", .nat 1)]]).pretty
        ++ "\n")).bind FileFacts.ofJson? = some f := by
  intro op s f
  obtain ⟨hexport, hread, -, hsnapshot, -, -, hfacts⟩ := written_json_is_read_back
    [.apply ((Batch.empty "a\"\\.py").pushAll [op])] linkedTree f
  have hdone := (hexport _ _).2 (write_linkedTree s.exportText.toUTF8)
  obtain ⟨place, -, -, htext, -⟩ := hread _ _ hdone
  have hfits : f.Fits := by
    refine ⟨?_, ?_, ?_, ?_⟩ <;> simp [f, Json.wordSize]
  exact ⟨⟨_, s.exportText, hdone, rfl, htext, hsnapshot⟩,
    (hfacts _ (.cons (.short rfl) .nil)).2 hfits⟩

end Command

end CodeGraph
