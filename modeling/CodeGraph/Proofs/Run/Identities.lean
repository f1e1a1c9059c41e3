import CodeGraph.Proofs.Files.Targets
import CodeGraph.Proofs.Run.Isolation
import CodeGraph.Proofs.Run.Totals
import Mathlib

/-! # Identities of files

A file comes into a graph in two ways: a walk reaches it and knows it by its place, or another file
imports it by some text. A graph has one node for the file only if both ways end in the same path.

They do where there are no links and no backslashes in names: either way the path denotes the place
of the file (`Locator.denotes_relativePath`, `Run.exists_denotes_of_target`), and there is one path
that does. What a run that takes every file leaves is known from `Run.exists_taken`, and the rest is
read off the graph of what was written (`Run.file_identities_agree`). -/

namespace CodeGraph

variable {σ : Type}

/-- Whether a file is reported as ingested under a path. -/
def RunSummary.Ingested (summary : RunSummary) (path : String) : Prop :=
  ∃ report ∈ summary.reports, report.isFailed = false ∧ report.path = path

/-- The nodes of files in a graph that was written. -/
theorem Store.containsNode_file_writeAll {files : List (FileFacts × List String)} {path : String} :
    (empty.writeAll files).containsNode (.file path) ↔
      (∃ f ∈ files, f.1.path = path) ∨ ∃ f ∈ files, path ∈ f.2 := by
  rw [containsNode_writeAll, ← exists_or]
  refine exists_congr fun f => ?_
  rw [← and_or_left]
  simp [NodeKey.label, Plan.nodesOf, eq_comm]

/-- The imports in a graph that was written. -/
theorem Store.hasLink_imports_writeAll {files : List (FileFacts × List String)} {link : Link}
    (h : (empty.writeAll files).hasLink link) (himports : link.relation = .imports) :
    ∃ f ∈ files, ∃ target ∈ f.2, link = ⟨.file f.1.path, .imports, .file target⟩ := by
  obtain ⟨f, hf, hlink⟩ := hasLink_writeAll.1 h
  rw [himports, Plan.linksOf] at hlink
  obtain ⟨target, htarget, rfl⟩ := List.mem_map.1 hlink
  exact ⟨f, hf, target, htarget, rfl⟩

/-- What follows the last slash is the last part of a path. -/
theorem Path.getLast?_splitAll (path : String) :
    (Text.splitAll '/' path).getLast? = some (baseName path) := by
  have hne : Text.splitAll '/' path ≠ [] := by
    simp [Text.splitAll, List.splitOn_ne_nil]
  rw [baseName, List.getLast?_eq_some_getLast hne]
  rfl

namespace Run

variable {config : RunConfig} {t : FileTree} {l : Locator}

/-! ## Targets of imports -/

/-- `addTarget` adds the target it is given, if any, and nothing else. -/
theorem mem_addTarget {targets : List String} {target : Option String} {path : String} :
    path ∈ addTarget targets target ↔ path ∈ targets ∨ target = some path := by
  cases target with
  | none => simp [addTarget]
  | some p =>
    rw [addTarget]
    split
    · next hthere =>
      rw [List.contains_iff_mem] at hthere
      constructor
      · exact .inl
      · rintro (h | h)
        · exact h
        · exact Option.some.inj h ▸ hthere
    · simp [eq_comm]

/-- The files that imports mean are those that one of them means. -/
theorem mem_resolveAll {isFile : String → Bool} {importer : String} {language : Language}
    {imports : List ImportFact} {targets : List String} {path : String} :
    path ∈ (resolveAll isFile importer language targets imports).value ↔
      path ∈ targets ∨ ∃ i ∈ imports,
        (Imports.resolve isFile importer i.specifier language).value = some path := by
  induction imports generalizing targets with
  | nil => simp [resolveAll]
  | cons i imports ih =>
    rw [resolveAll, Logged.value_bind, ih, mem_addTarget, List.exists_mem_cons_iff, or_assoc]

/-- Whether a path is that of a file that some file imports. -/
def IsTarget (config : RunConfig) (t : FileTree) (l : Locator) (path : String) : Prop :=
  ∃ place ∈ (l.files t).value, ∃ facts resolved,
    inspect config t l place = .ok (facts, resolved) ∧ ∃ i ∈ facts.imports,
      (Imports.resolve (isFileBelow t l.root) (l.relativePath place) i.specifier
        facts.language).value = some path

/-! ## What is taken -/

/-- What all files give, in the order of the walk. -/
def given (config : RunConfig) (t : FileTree) (l : Locator) : List (FileFacts × List String) :=
  (l.files t).value.filterMap fun place => (inspect config t l place).toOption

/-- What is given are the facts of the files that are visited and can be ingested. -/
theorem mem_given {f : FileFacts × List String} :
    f ∈ given config t l ↔ ∃ place ∈ (l.files t).value, inspect config t l place = .ok f := by
  rw [given, List.mem_filterMap]
  refine exists_congr fun place => and_congr_right fun _ => ?_
  cases inspect config t l place <;> simp [Except.toOption]

/-- What is planned is to write what is given. -/
theorem calls_given :
    Plan.calls (given config t l)
      = ((l.files t).value.filterMap (planned? config t l)).map .apply := by
  rw [Plan.calls, given, List.map_filterMap, List.map_filterMap]
  refine List.filterMap_congr fun place _ => ?_
  rw [planned?, Option.map_map]
  rfl

variable {backend : Backend σ} {around : Surroundings σ} {store : σ → Store}
  {home : Option String}

/-- **A run that is not stopped and has every batch taken** reports every file that gives facts as
ingested, and writes what is given. -/
theorem exists_taken (hb : backend.Holds store) (ha : around.Still store t home)
    (htakes : ∀ b s, ∃ s', (backend.apply b s).value = (.ok (), s'))
    (hl : locator? config t home = some l) {elapsed : Nat} {s : σ} {summary : RunSummary}
    (hok : (run config backend around elapsed s).value.1 = .ok summary)
    (hgo : summary.stopped = false) :
    summary.reports = (l.files t).value.map (reportBy config t l fun _ => none) ∧
      store (run config backend around elapsed s).value.2.2
        = (store s).writeAll (given config t l) := by
  have hd : backend.Decides fun _ => none := by
    intro b s
    obtain ⟨s', hs'⟩ := htakes b s
    rw [hs']
  obtain ⟨l', visited, rest, hl', houtcome⟩ := exists_outcome hb ha hok
  cases hl.symm.trans hl'
  have hfiles : (l.files t).value = visited := by
    rw [houtcome.files, houtcome.complete hgo, List.append_nil]
  obtain ⟨n, hn⟩ := reports_decided hb ha hd hl hok
  -- the walk went through all files, so that no report is missing at the end
  have hreports : summary.reports = (l.files t).value.map (reportBy config t l fun _ => none) := by
    have hlength := houtcome.reports.length_eq
    rw [hn, ← hfiles, List.length_map, List.length_take] at hlength
    rw [hn, List.take_of_length_le (by omega)]
  have hwriting : ∀ report ∈ summary.reports, ∀ problem,
      report.outcome ≠ .failed .writing problem := by
    intro report hmem problem
    rw [hreports] at hmem
    obtain ⟨place, -, rfl⟩ := List.mem_map.1 hmem
    rw [reportBy]
    cases hi : inspect config t l place with
    | error e =>
      intro heq
      injection heq with hstage
      exact stage_ne_writing_of_inspect hi hstage
    | ok f =>
      intro heq
      cases heq
  refine ⟨hreports, ?_⟩
  rw [houtcome.graph, written_of_complete houtcome.reports hwriting, Store.writeAll_eq, calls_given,
    hfiles]

/-- **The files that are ingested** are those that give facts, under the paths of their places. -/
theorem ingested_iff {summary : RunSummary}
    (hreports : summary.reports = (l.files t).value.map (reportBy config t l fun _ => none))
    (path : String) :
    summary.Ingested path ↔ ∃ place ∈ (l.files t).value,
      l.relativePath place = path ∧ (inspect config t l place).toOption.isSome := by
  have hreport : ∀ place, (reportBy config t l (fun _ => none) place).path = l.relativePath place ∧
      (reportBy config t l (fun _ => none) place).isFailed
        = !(inspect config t l place).toOption.isSome := by
    intro place
    rw [reportBy]
    cases inspect config t l place <;> exact ⟨rfl, rfl⟩
  rw [RunSummary.Ingested, hreports]
  simp [hreport, and_comm]

/-- A path is given exactly when a file that can be ingested has it as its relative path. -/
theorem exists_given_path_iff (path : String) :
    (∃ f ∈ given config t l, f.1.path = path) ↔ ∃ place ∈ (l.files t).value,
      l.relativePath place = path ∧ (inspect config t l place).toOption.isSome := by
  constructor
  · rintro ⟨f, hf, rfl⟩
    obtain ⟨place, hplace, hinspect⟩ := mem_given.1 hf
    refine ⟨place, hplace, (of_inspect_eq_ok hinspect).1.symm, ?_⟩
    rw [hinspect]
    rfl
  · rintro ⟨place, hplace, rfl, hsome⟩
    cases hinspect : inspect config t l place with
    | error e =>
      rw [hinspect] at hsome
      cases hsome
    | ok f => exact ⟨f, mem_given.2 ⟨place, hplace, hinspect⟩, (of_inspect_eq_ok hinspect).1⟩

/-- The targets of imports are the files that some file that gives facts imports. -/
theorem isTarget_iff (path : String) :
    IsTarget config t l path ↔ ∃ f ∈ given config t l, path ∈ f.2 := by
  constructor
  · rintro ⟨place, hplace, facts, resolved, hinspect, i, hi, hresolve⟩
    refine ⟨_, mem_given.2 ⟨place, hplace, hinspect⟩, ?_⟩
    dsimp only
    rw [(of_inspect_eq_ok hinspect).2.2, mem_resolveAll]
    exact .inr ⟨i, hi, hresolve⟩
  · rintro ⟨⟨facts, resolved⟩, hf, hpath⟩
    obtain ⟨place, hplace, hinspect⟩ := mem_given.1 hf
    dsimp only at hpath
    rw [(of_inspect_eq_ok hinspect).2.2, mem_resolveAll] at hpath
    obtain ⟨i, hi, hresolve⟩ := hpath.resolve_left List.not_mem_nil
    exact ⟨place, hplace, facts, resolved, hinspect, i, hi, hresolve⟩

/-! ## Paths of nodes -/

section Plain

variable {children : List (String × Entry)} (hproper : t.root.Proper)
  (hroot : t.root.at? l.root = some (.dir children)) (hplain : (Entry.dir children).Plain)

include hproper hroot hplain

/-- A file that gives facts has the path that denotes it. -/
theorem exists_denotes_of_given {f : FileFacts × List String} (hf : f ∈ given config t l) :
    ∃ place, l.Denotes t f.1.path place := by
  obtain ⟨place, hplace, hinspect⟩ := mem_given.1 hf
  rw [Locator.value_files] at hplace
  rw [(of_inspect_eq_ok hinspect).1]
  exact ⟨place, Locator.denotes_relativePath hproper hroot hplain hplace⟩

/-- What an import is resolved to is a path that denotes a file. -/
theorem exists_denotes_of_target {path : String} (h : IsTarget config t l path) :
    ∃ place, l.Denotes t path place := by
  obtain ⟨place, -, facts, resolved, -, i, -, hresolve⟩ := h
  obtain ⟨hfile, names, hnames, rfl⟩ := Imports.exists_names_of_resolve hresolve
  exact ⟨_, Locator.denotes_of_isFileBelow hproper hroot hplain hnames hfile⟩

/-- **Every node of a file** has a path that denotes the file. -/
theorem exists_denotes_of_containsNode {path : String}
    (h : (Store.empty.writeAll (given config t l)).containsNode (.file path)) :
    ∃ place, l.Denotes t path place := by
  rcases Store.containsNode_file_writeAll.1 h with ⟨f, hf, rfl⟩ | htarget
  · exact exists_denotes_of_given hproper hroot hplain hf
  · exact exists_denotes_of_target hproper hroot hplain ((isTarget_iff path).2 htarget)

/-- The place that the path of a node leads to is the one that it denotes. -/
theorem denotes_of_resolve {path : String} {place : List String}
    (h : (Store.empty.writeAll (given config t l)).containsNode (.file path))
    (hresolve : t.resolve (FileTree.absolute l.root ++ "/" ++ path) = .ok place) :
    l.Denotes t path place := by
  obtain ⟨place', hplace'⟩ := exists_denotes_of_containsNode hproper hroot hplain h
  cases hresolve.symm.trans (hplace'.resolve hproper hroot hplain)
  exact hplace'

end Plain

/-- **What a graph says of files**, after a run over a repository. -/
structure FileIdentities (config : RunConfig) (t : FileTree) (l : Locator) (summary : RunSummary)
    (g : Store) : Prop where
  /-- The files that are ingested are those that give facts, under the paths of their places. -/
  ingested : ∀ path, summary.Ingested path ↔ ∃ place ∈ (l.files t).value,
    l.relativePath place = path ∧ (inspect config t l place).toOption.isSome
  /-- There is a node for each file that is ingested or imported, and for no other. -/
  nodes : ∀ path, g.containsNode (.file path) ↔ summary.Ingested path ∨ IsTarget config t l path
  /-- The path of a node leads from the root to a file below it. -/
  files : ∀ path, g.containsNode (.file path) → ∃ place bytes, l.root <+: place ∧
    t.resolve (FileTree.absolute l.root ++ "/" ++ path) = .ok place ∧
    t.root.at? place = some (.file bytes)
  /-- A node has a name if the file is ingested. -/
  named : ∀ path, (g.fileName? path).isSome ↔ summary.Ingested path
  /-- The name is what follows the last slash of the path. -/
  names : ∀ path name, g.fileName? path = some name →
    (Text.splitAll '/' path).getLast? = some name
  /-- An import goes from a file that is ingested to the node of a file, and if a walk reaches that
  file then the node has the path by which the walk knows the file. -/
  imports : ∀ link, g.hasLink link → link.relation = .imports → ∃ source target,
    link = ⟨.file source, .imports, .file target⟩ ∧ summary.Ingested source ∧
    g.containsNode (.file target) ∧ ∀ place ∈ (l.files t).value,
      t.resolve (FileTree.absolute l.root ++ "/" ++ target) = .ok place →
      target = l.relativePath place
  /-- No file has two nodes. -/
  unique : ∀ path path' place, g.containsNode (.file path) → g.containsNode (.file path') →
    t.resolve (FileTree.absolute l.root ++ "/" ++ path) = .ok place →
    t.resolve (FileTree.absolute l.root ++ "/" ++ path') = .ok place → path' = path

/-- **The two ways to a file end in one node.** Let there be no links in a repository and no
backslashes in its names, and let a run over it that is not stopped have every batch taken, on an
empty graph. Then the nodes of files are those of the files that are ingested, under the paths of
their places, and of those that they import; each path is that of one file, which is there; the
nodes of files that are ingested have names, which are the last parts of their paths; and no import
leads to a second node of a file. -/
theorem file_identities_agree (hproper : t.root.Proper) (hl : locator? config t home = some l)
    (hplain : ∀ e, t.root.at? l.root = some e → e.Plain) (hb : backend.Holds store)
    (htakes : ∀ b s, ∃ s', (backend.apply b s).value = (.ok (), s'))
    (ha : around.Still store t home) {elapsed : Nat} {s : σ} (hempty : store s = .empty)
    {summary : RunSummary} (hok : (run config backend around elapsed s).value.1 = .ok summary)
    (hgo : summary.stopped = false) :
    FileIdentities config t l summary (store (run config backend around elapsed s).value.2.2) := by
  obtain ⟨children, hroot⟩ := Locator.at?_root_of_ofPath (locator?_eq_some_iff.1 hl)
  have hplain := hplain _ hroot
  obtain ⟨hreports, hgraph⟩ := exists_taken hb ha htakes hl hok hgo
  have hingested := ingested_iff hreports
  have hgiven : ∀ path, summary.Ingested path ↔ ∃ f ∈ given config t l, f.1.path = path :=
    fun path => (hingested path).trans (exists_given_path_iff path).symm
  rw [hgraph, hempty]
  refine ⟨hingested, fun path => ?_, fun path hnode => ?_, fun path => ?_,
    fun path name hname => ?_, fun link hlink himports => ?_,
    fun path path' place hnode hnode' hresolve hresolve' => ?_⟩
  · rw [Store.containsNode_file_writeAll, hgiven, isTarget_iff]
  · obtain ⟨place, hplace⟩ := exists_denotes_of_containsNode hproper hroot hplain hnode
    have hresolve := hplace.resolve hproper hroot hplain
    obtain ⟨parts, -, -, rfl⟩ := hplace.exists_names
    obtain ⟨bytes, hbytes⟩ := hplace.exists_file
    exact ⟨_, bytes, List.prefix_append _ _, hresolve, hbytes⟩
  · rw [Store.isSome_fileName?_writeAll, hgiven]
  · obtain ⟨f, hf, rfl, rfl⟩ := Store.exists_of_fileName?_writeAll hname
    obtain ⟨place, -, hinspect⟩ := mem_given.1 hf
    obtain ⟨hpath, hbase, -⟩ := of_inspect_eq_ok hinspect
    rw [Path.getLast?_splitAll, hbase, hpath]
  · obtain ⟨f, hf, target, htarget, rfl⟩ := Store.hasLink_imports_writeAll hlink himports
    have hnode := Store.containsNode_file_writeAll.2 (.inr ⟨f, hf, htarget⟩)
    refine ⟨f.1.path, target, rfl, (hgiven _).2 ⟨f, hf, rfl⟩, hnode, ?_⟩
    -- the walk and the import each end in the path that denotes the place
    intro place hplace hresolve
    rw [Locator.value_files] at hplace
    exact (Locator.denotes_relativePath hproper hroot hplain hplace).path_unique
      (denotes_of_resolve hproper hroot hplain hnode hresolve)
  · exact (denotes_of_resolve hproper hroot hplain hnode hresolve).path_unique
      (denotes_of_resolve hproper hroot hplain hnode' hresolve')

/-- A package that is walked, under the path that an import of it leads to. -/
theorem file_identities_agree_package :
    let config : RunConfig := { root := "/repo", extensions := ["py"], ignoring := false }
    let package : Entry := .dir [("__init__.py", .file "def f(): pass\n".toUTF8)]
    let files : Entry := .dir [("a.py", .file "from pkg import f\n".toUTF8), ("pkg", package)]
    let t : FileTree := { root := .dir [("repo", files)] }
    let l : Locator := { root := ["repo"], extensions := ["py"], ignoring := false }
    locator? config t none = some l ∧
      (l.files t).value.map l.relativePath = ["a.py", "pkg/__init__.py"] ∧
      "pkg/__init__.py" ∈ Imports.candidates "pkg" ∧ isFileBelow t l.root "pkg/__init__.py" ∧
      ∃ summary, (run config .memory (.quiet t none) 0 .empty).value.1 = .ok summary ∧
        FileIdentities config t l summary
          (run config .memory (.quiet t none) 0 .empty).value.2.2 := by
  intro config package files t l
  have hl : locator? config t none = some l := by cbv
  have hpaths : (l.files t).value.map l.relativePath = ["a.py", "pkg/__init__.py"] := by
    have hfiles : (l.files t).value = [["repo", "a.py"], ["repo", "pkg", "__init__.py"]] := by
      rw [Locator.value_files]
      cbv
    rw [hfiles]
    decide +kernel
  have hname : ∀ name ∈ ["repo", "a.py", "pkg", "__init__.py"], ProperName name := by decide
  have hproper : t.root.Proper :=
    ⟨by decide, hname _ (by simp), ⟨by decide, hname _ (by simp), trivial, hname _ (by simp),
      ⟨by decide, hname _ (by simp), trivial, trivial⟩, trivial⟩, trivial⟩
  have hplain : files.Plain := by
    refine Entry.plain_dir (List.forall_mem_cons.2 ⟨⟨by decide, Entry.plain_file _⟩, ?_⟩)
    refine List.forall_mem_singleton.2 ⟨by decide, Entry.plain_dir ?_⟩
    exact List.forall_mem_singleton.2 ⟨by decide, Entry.plain_file _⟩
  have hfile : isFileBelow t l.root ("/".intercalate ["pkg", "__init__.py"]) := by
    have hparts : ProperNames ["pkg", "__init__.py"] := ⟨by decide, by decide⟩
    exact (FileTree.isFileBelow_iff hproper rfl hplain hparts).2 ⟨_, rfl⟩
  obtain ⟨summary, hok⟩ : ∃ summary,
      (run config .memory (.quiet t none) 0 .empty).value.1 = .ok summary := by
    have hverify : (Backend.memory.verify Store.empty).value = (.ok (), Store.empty) := rfl
    have hl' : locator? config ((Surroundings.quiet t none).tree Store.empty)
      (Surroundings.quiet t none).home = some l := hl
    rw [value_run hl' hverify, value_ingest_eq]
    exact ⟨_, rfl⟩
  have hgo : summary.stopped = false := by
    have hcomplete := (leads_memory config t none 0 .empty).2
    rw [hok] at hcomplete
    exact hcomplete.1
  have hplain' : ∀ e, t.root.at? l.root = some e → e.Plain := by
    rintro e he
    cases he
    exact hplain
  refine ⟨hl, hpaths, by decide +kernel, hfile, summary, hok, ?_⟩
  exact file_identities_agree hproper hl hplain' Backend.holds_memory (fun b s => ⟨s.apply b, rfl⟩)
    (Surroundings.still_quiet t none) rfl hok hgo

end Run

end CodeGraph
