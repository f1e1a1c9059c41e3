import CodeGraph.Proofs.Files.Probing

/-! # Which file an import means

The text of an import means steps from the root: names lead down and `..` leads up
(`Imports.steps`). They are the names of the path that is made of the text (`Imports.names_meant`),
and taking them fails exactly if they leave the root on the way (`Imports.takeSteps_eq_some_iff`).
Otherwise they lead to a place, for which paths are tried one after the other (`Imports.tried`). In
Python a name may also stand for something in the module around it: a dotted name without its last
part (`Imports.Dotted.ofText_pythonParent`), whose steps stay below the root if those of the whole
name do.

The paths that are looked at while an import is resolved are those that are sought for it
(`Imports.probes_eq_sought`). So it means the first file among them, if there is one
(`Imports.import_means_first_file`). -/

namespace CodeGraph

namespace FileTree

@[simp] theorem names_empty : names "" = [] := by simp [names, Text.splitAll]

/-- The names of paths joined by slashes are those of each path in turn. -/
theorem names_intercalate (parts : List String) :
    names ("/".intercalate parts) = parts.flatMap names := by
  induction parts with
  | nil => rw [String.intercalate_nil, names_empty, List.flatMap_nil]
  | cons part parts ih =>
    by_cases hparts : parts = []
    · subst hparts
      simp
    · rw [String.intercalate_cons_of_ne_nil hparts, names_append, ih, List.flatMap_cons]

/-- Slashes at the start of a path do not count. -/
theorem names_trimStartWhere (path : String) :
    names (Text.trimStartWhere (· == '/') path) = names path := by
  have hslash : ∀ cs, names (String.ofList ('/' :: cs)) = names (String.ofList cs) := by
    intro cs
    have hjoin : String.ofList ('/' :: cs) = "" ++ "/" ++ String.ofList cs := by
      rw [← String.toList_inj]
      simp
    rw [hjoin, names_append, names_empty, List.nil_append]
  have hchars : ∀ cs : List Char,
      names (String.ofList (cs.dropWhile (· == '/'))) = names (String.ofList cs) := by
    intro cs
    induction cs with
    | nil => rfl
    | cons c cs ih =>
      by_cases hc : c = '/'
      · subst hc
        rw [List.dropWhile_cons_of_pos (by simp), ih, hslash]
      · rw [List.dropWhile_cons_of_neg (by simpa using hc)]
  rw [Text.trimStartWhere, Text.dropStart, hchars, String.ofList_toList]

/-- Where one character stands for a slash, the names are those of the parts between. -/
theorem names_map_slash (mark : Char) (s : String) :
    names (s.map fun c => if c == mark then '/' else c) = (Text.splitAll mark s).flatMap names := by
  rw [names, Text.splitAll_map_slash, List.filter_flatMap]
  rfl

end FileTree

namespace Imports

open FileTree (names)

/-- The names of a path below a directory are those of the directory and then those of the path. -/
theorem names_below (dir path : String) : names (below dir path) = names dir ++ names path := by
  rw [below]
  split
  · next hempty => simp [String.isEmpty_iff.1 hempty]
  · exact FileTree.names_append dir path

/-! ## Steps -/

/-- Whether steps that begin `depth` directories below the root leave it on the way: at some point
they have gone up more often than down. -/
def Climbs (depth : Nat) (steps : List String) : Prop :=
  ∃ before, before <+: steps ∧ depth + before.countP (· != "..") < before.count ".."

/-- Where one step leads: `..` leads up, and any other name down. -/
def advance (here : List String) (step : String) : List String :=
  if step = ".." then here.dropLast else here ++ [step]

/-- Where steps lead from the root. -/
def destination (steps : List String) : List String := steps.foldl advance []

/-- No steps at all leave no directory. -/
theorem not_climbs_nil (depth : Nat) : ¬ Climbs depth [] := by
  rintro ⟨before, hbefore, hlt⟩
  rw [List.prefix_nil.1 hbefore] at hlt
  simp at hlt

/-- Only what follows the first step needs to be looked at, since no steps at all do not climb. -/
theorem climbs_cons {depth : Nat} {step : String} {steps : List String} :
    Climbs depth (step :: steps) ↔ ∃ before, before <+: steps ∧
      depth + (step :: before).countP (· != "..") < (step :: before).count ".." := by
  constructor
  · rintro ⟨before, hbefore, hlt⟩
    rcases List.prefix_cons_iff.1 hbefore with rfl | ⟨rest, rfl, hrest⟩
    · simp at hlt
    · exact ⟨rest, hrest, hlt⟩
  · rintro ⟨before, hbefore, hlt⟩
    exact ⟨step :: before, List.cons_prefix_cons.2 ⟨rfl, hbefore⟩, hlt⟩

/-- A step up from the root leaves it. -/
theorem climbs_up_zero (steps : List String) : Climbs 0 (".." :: steps) :=
  climbs_cons.2 ⟨[], List.nil_prefix, by simp⟩

/-- After a step up from a directory the other steps begin one further up. -/
theorem climbs_up_succ {depth : Nat} {steps : List String} :
    Climbs (depth + 1) (".." :: steps) ↔ Climbs depth steps := by
  rw [climbs_cons]
  refine exists_congr fun before => and_congr_right fun _ => ?_
  rw [List.countP_cons_of_neg (by simp), List.count_cons_self]
  omega

/-- After a step down the other steps begin one further down. -/
theorem climbs_down {depth : Nat} {name : String} {steps : List String} (h : name ≠ "..") :
    Climbs depth (name :: steps) ↔ Climbs (depth + 1) steps := by
  rw [climbs_cons]
  refine exists_congr fun before => and_congr_right fun _ => ?_
  rw [List.countP_cons_of_pos (by simpa using h), List.count_cons_of_ne h]
  omega

/-- Steps that climb also do so if more steps follow. -/
theorem Climbs.of_prefix {depth : Nat} {steps more : List String} (h : Climbs depth steps)
    (hmore : steps <+: more) : Climbs depth more := by
  obtain ⟨before, hbefore, hlt⟩ := h
  exact ⟨before, hbefore.trans hmore, hlt⟩

/-- **Taking steps**: it fails if they leave the root, and else they lead to their destination. -/
theorem takeSteps_eq_some_iff {kept parts ns : List String} :
    takeSteps kept parts = some ns ↔
      ¬ Climbs kept.length (parts.filter fun n => n != "" && n != ".") ∧
        ns = (parts.filter fun n => n != "" && n != ".").foldl advance kept.reverse := by
  induction parts generalizing kept with
  | nil => simp [takeSteps, not_climbs_nil, eq_comm]
  | cons part parts ih =>
    simp only [takeSteps]
    by_cases hidle : part = "" ∨ part = "."
    · have hdrop : (part != "" && part != ".") = false := by
        rcases hidle with rfl | rfl <;> rfl
      rw [if_pos (by simpa using hidle), ih, List.filter_cons_of_neg (by simp [hdrop])]
    · rw [not_or] at hidle
      rw [if_neg (by simpa using hidle), List.filter_cons_of_pos (by simpa using hidle),
        List.foldl_cons]
      by_cases hup : part = ".."
      · subst hup
        rw [if_pos (by simp)]
        cases kept with
        | nil => simp [climbs_up_zero]
        | cons name kept => simp [ih, climbs_up_succ, advance]
      · rw [if_neg (by simpa using hup), ih, climbs_down hup]
        simp [advance, hup]

/-! ## Dotted names -/

/-- A dotted name: the number of dots at its start and the parts between the dots that follow. -/
structure Dotted where
  dots : Nat
  parts : List String

namespace Dotted

/-- The dotted name that a text is. -/
def ofText (specifier : String) : Dotted where
  dots := leadingDots specifier
  parts := if moduleName specifier = "" then [] else Text.splitAll '.' (moduleName specifier)

/-- The steps that a dotted name means. Dots at its start lead to the directory of the importing
file, and each one after the first leads up from there. -/
def steps (m : Dotted) (importer : String) : List String :=
  (if m.dots = 0 then [] else names (parentDir importer) ++ List.replicate (m.dots - 1) "..")
    ++ m.parts.flatMap names

/-- The dotted name without its last part, as far as something is left of it. -/
def outer? (m : Dotted) : Option Dotted :=
  if m.parts = [] ∨ m.dots = 0 ∧ m.parts.length = 1 then none
  else some { m with parts := m.parts.dropLast }

/-- The steps to a module around another are the first of the steps to that one. -/
theorem steps_prefix_of_outer? {m outer : Dotted} (h : m.outer? = some outer) (importer : String) :
    outer.steps importer <+: m.steps importer := by
  rw [outer?] at h
  split at h
  · cases h
  · cases h
    obtain ⟨last, hlast⟩ : m.parts.dropLast <+: m.parts := List.dropLast_prefix _
    refine ⟨last.flatMap names, ?_⟩
    rw [steps, steps, List.append_assoc, ← List.flatMap_append, hlast]

/-- Dots and what follows them can be told apart. -/
theorem ofText_append {dots name : List Char} (hdots : ∀ c ∈ dots, c = '.')
    (hname : name.head? ≠ some '.') :
    ofText (String.ofList (dots ++ name)) =
      ⟨dots.length, if name = [] then [] else Text.splitAll '.' (String.ofList name)⟩ := by
  have hall : ∀ c ∈ dots, (c == '.') = true := fun c hc => beq_iff_eq.2 (hdots c hc)
  have hfirst : name.takeWhile (· == '.') = [] ∧ name.dropWhile (· == '.') = name := by
    cases name with
    | nil => exact ⟨rfl, rfl⟩
    | cons c cs =>
      have hc : c ≠ '.' := fun heq => hname (congrArg some heq)
      simp [hc]
  rw [ofText, leadingDots, moduleName, Text.trimStartWhere, Text.dropStart, String.toList_ofList,
    List.takeWhile_append_of_pos hall, List.dropWhile_append_of_pos hall, hfirst.1, hfirst.2,
    List.append_nil]
  simp

/-- **The module that a name is imported from** is the one around it. -/
theorem ofText_pythonParent (specifier : String) :
    (pythonParent specifier).map ofText = (ofText specifier).outer? := by
  have hdots : ∀ c ∈ specifier.toList.takeWhile (· == '.'), c = '.' :=
    fun c hc => beq_iff_eq.1 (List.all_eq_true.1 List.all_takeWhile c hc)
  have hname : (moduleName specifier).toList.head? ≠ some '.' := by
    intro hhead
    have hnot := List.head?_dropWhile_not (· == '.') specifier.toList
    rw [moduleName, Text.trimStartWhere, Text.dropStart, String.toList_ofList] at hhead
    simp [hhead] at hnot
  rw [pythonParent, outer?, ofText, leadingDots]
  generalize specifier.toList.takeWhile (· == '.') = dots at hdots
  generalize moduleName specifier = name at hname
  by_cases hempty : name = ""
  · simp [hempty]
  · cases hsplit : Text.splitLast? '.' name with
    | none =>
      have hparts := Text.splitAll_of_splitLast?_eq_none hsplit
      have htext : ofText (String.ofList dots) = ⟨dots.length, []⟩ := by
        simpa using @ofText_append dots [] hdots (by simp)
      by_cases hnone : dots = []
      · simp [hempty, hparts, hnone]
      · simp [hempty, hparts, hnone, htext]
    | some split =>
      obtain ⟨head, last⟩ := split
      obtain ⟨hchars, hparts⟩ := Text.of_splitLast? hsplit
      -- the name does not begin with a dot, so that there is something before its last dot
      obtain ⟨c, cs, hhead⟩ : ∃ c cs, head.toList = c :: cs := by
        cases hhead : head.toList with
        | nil => exact absurd (by simp [hchars, hhead]) hname
        | cons c cs => exact ⟨c, cs, rfl⟩
      have hfirst : head.toList.head? ≠ some '.' := by
        rw [hchars, hhead] at hname
        rwa [hhead]
      have hne : head ≠ "" := fun heq => by simp [heq] at hhead
      have hlength : (Text.splitAll '.' head).length ≠ 0 := by
        simp [Text.splitAll, List.splitOn_ne_nil]
      have htext : ofText (String.ofList dots ++ head)
          = ⟨dots.length, Text.splitAll '.' head⟩ := by
        have hjoin : String.ofList dots ++ head = String.ofList (dots ++ head.toList) := by simp
        rw [hjoin, ofText_append hdots hfirst, hhead, if_neg (List.cons_ne_nil _ _), ← hhead,
          String.ofList_toList]
      simp [hempty, hparts, hne, hlength, htext]

end Dotted

/-- The steps from the root that the text of an import means. -/
def steps (language : Language) (importer specifier : String) : List String :=
  match language with
  | .python => (Dotted.ofText specifier).steps importer
  | .javaScript | .typeScript =>
    (if isRelative specifier then names (parentDir importer) else []) ++ names specifier

/-- **A Python specifier means the steps of its dotted name**: the path it is turned into has them
as names. -/
theorem names_pythonPath (importer specifier : String) :
    names (pythonPath importer specifier) = (Dotted.ofText specifier).steps importer := by
  have hname : names ((moduleName specifier).map fun c => if c == '.' then '/' else c)
      = (Dotted.ofText specifier).parts.flatMap names := by
    rw [FileTree.names_map_slash, Dotted.ofText]
    dsimp only
    split
    · next hempty => simp [hempty, Text.splitAll]
    · rfl
  have hups : ∀ n, (List.replicate n "..").flatMap names = List.replicate n ".." := by
    intro n
    induction n with
    | zero => rfl
    | succ n ih =>
      have hup : names ".." = [".."] := by
        rw [names, Text.splitAll_of_not_mem (by decide)]
        rfl
      rw [List.replicate_succ, List.flatMap_cons, ih, hup, List.singleton_append]
  have hone : ∀ path : String,
      (if path.isEmpty then [] else [path]).flatMap names = names path := by
    intro path
    split
    · next hempty => simp [String.isEmpty_iff.1 hempty]
    · simp
  have hdots : (Dotted.ofText specifier).dots = leadingDots specifier := rfl
  rw [pythonPath, Dotted.steps, ← hname, hdots]
  -- without dots the path is that of the name alone; with dots it is joined from three parts
  by_cases hzero : leadingDots specifier = 0
  · rw [if_pos (beq_iff_eq.2 hzero), if_pos hzero, List.nil_append]
  · rw [if_neg (mt beq_iff_eq.1 hzero), if_neg hzero]
    dsimp only
    rw [FileTree.names_intercalate, List.flatMap_append, List.flatMap_append, hone, hups, hone]

/-- The path that an import is turned into has as names the steps that the import means. -/
theorem names_meant (language : Language) (importer specifier : String) :
    names (meant language importer specifier) = steps language importer specifier := by
  have hscript : names (scriptPath importer specifier)
      = (if isRelative specifier then names (parentDir importer) else []) ++ names specifier := by
    rw [scriptPath]
    split
    · exact names_below _ _
    · exact FileTree.names_trimStartWhere specifier
  cases language with
  | python => exact names_pythonPath importer specifier
  | javaScript => exact hscript
  | typeScript => exact hscript

/-! ## Files that are tried -/

/-- The paths that are tried for a place, in order: the place itself, the place with each extension,
and files of certain names inside it. The root has no name to put an extension to. -/
def tried (place : List String) : List String :=
  let path := "/".intercalate place
  (if place = [] then [] else path :: sourceExtensions.map fun ext => path ++ "." ++ ext)
    ++ (sourceExtensions.filter (· != "py")).map
      (fun ext => "/".intercalate (place ++ ["index." ++ ext]))
    ++ ["/".intercalate (place ++ ["__init__.py"])]

/-- All paths that are tried for an import, in order: those for the place that is meant and, in
Python, those for the module around it. -/
def sought (language : Language) (importer specifier : String) : List String :=
  tried (destination (steps language importer specifier)) ++
    match language with
    | .python => ((Dotted.ofText specifier).outer?.map fun outer =>
        tried (destination (outer.steps importer))).getD []
    | .javaScript | .typeScript => []

/-- The candidates for a path of proper names are the paths that are `tried` for them. -/
theorem candidates_intercalate {ns : List String} (h : ∀ name ∈ ns, ProperName name) :
    candidates ("/".intercalate ns) = tried ns := by
  simp only [candidates, tried, below_intercalate h]
  by_cases hns : ns = []
  · rw [if_pos ((isEmpty_intercalate h).2 hns), if_pos hns]
  · rw [if_neg fun hempty => hns ((isEmpty_intercalate h).1 hempty), if_neg hns]

/-- **A path that stays below the root** stands for the paths that are tried for its destination. -/
theorem exists_candidates_eq {path : String} (h : ¬ Climbs 0 (names path)) :
    ∃ p, normalize path = some p ∧ candidates p = tried (destination (names path)) := by
  have hsteps : takeSteps [] (Text.splitAll '/' path) = some (destination (names path)) :=
    takeSteps_eq_some_iff.2 ⟨h, rfl⟩
  have hproper := properName_of_mem_takeSteps (List.forall_mem_nil _)
    (fun _ => Text.not_mem_of_mem_splitAll) hsteps
  refine ⟨"/".intercalate (destination (names path)), ?_, candidates_intercalate hproper⟩
  rw [normalize, hsteps, Option.map_some]

/-- A path that leaves the root has no normal form. -/
theorem normalize_eq_none {path : String} (h : Climbs 0 (names path)) : normalize path = none := by
  rw [normalize, Option.map_eq_none_iff, Option.eq_none_iff_forall_ne_some]
  exact fun ns hns => (takeSteps_eq_some_iff.1 hns).1 h

/-- For the module around an import, `parentProbes` are the paths that are tried for its
destination. Its steps stay below the root if those of the import do. -/
theorem parentProbes_eq {importer specifier : String}
    (h : ¬ Climbs 0 ((Dotted.ofText specifier).steps importer)) :
    parentProbes .python importer specifier
      = ((Dotted.ofText specifier).outer?.map fun outer =>
          tried (destination (outer.steps importer))).getD [] := by
  have houter := Dotted.ofText_pythonParent specifier
  rw [parentProbes]
  cases hparent : pythonParent specifier with
  | none =>
    rw [hparent] at houter
    rw [← houter]
    rfl
  | some parent =>
    rw [hparent, Option.map_some] at houter
    have hstays : ¬ Climbs 0 (names (pythonPath importer parent)) := by
      rw [names_pythonPath]
      exact fun hclimbs =>
        h (hclimbs.of_prefix (Dotted.steps_prefix_of_outer? houter.symm importer))
    obtain ⟨p, hp, hcandidates⟩ := exists_candidates_eq hstays
    rw [names_pythonPath] at hcandidates
    rw [Option.bind_some, hp, Option.map_some, hcandidates, ← houter, Option.map_some]

/-- **The paths that are tried for an import are those that are sought for it**: where its steps
stay below the root, `probes` is `sought`. -/
theorem probes_eq_sought {language : Language} {importer specifier s : String}
    (hclean : cleanSpecifier specifier = some s) (h : ¬ Climbs 0 (steps language importer s)) :
    probes language importer specifier = sought language importer s := by
  have hstays : ¬ Climbs 0 (names (meant language importer s)) := by rwa [names_meant]
  obtain ⟨p, hp, hcandidates⟩ := exists_candidates_eq hstays
  rw [names_meant] at hcandidates
  rw [probes_of_clean_some hclean, hp, Option.map_some, Option.getD_some, hcandidates]
  cases language with
  | python => rw [parentProbes_eq h, sought]
  | javaScript => rw [sought, parentProbes]
  | typeScript => rw [sought, parentProbes]

/-- Where its steps leave the root, nothing is tried for an import. -/
theorem probes_eq_nil {language : Language} {importer specifier s : String}
    (hclean : cleanSpecifier specifier = some s) (h : Climbs 0 (steps language importer s)) :
    probes language importer specifier = [] := by
  have hnone := @normalize_eq_none (meant language importer s) (by rwa [names_meant])
  rw [probes_of_clean_some hclean, hnone]
  rfl

/-- **An import means the first file that is sought for it**, whatever the texts of the import and
the importing file are. What it means is a path of proper names, so that it stays below the root,
and a file; and no path that is tried before it is one. It means nothing exactly if nothing is left
of the text once it is cleaned, if its steps leave the root on the way, though they may come back,
or if no path that is sought is a file. -/
theorem import_means_first_file (t : FileTree) (root : List String) (importer specifier : String)
    (language : Language) :
    let found := (resolve (Run.isFileBelow t root) importer specifier language).value
    let isFile := fun path => t.isFile (FileTree.absolute root ++ "/" ++ path)
    (∀ target, found = some target →
      target ≠ "" ∧ FileTree.isAbsolute target = false ∧
      (∀ part ∈ Text.splitAll '/' target, part ≠ "" ∧ part ≠ "." ∧ part ≠ "..") ∧
      isFile target ∧
      ∃ s before after, cleanSpecifier specifier = some s ∧
        sought language importer s = before ++ target :: after ∧ ∀ path ∈ before, ¬ isFile path) ∧
    (found = none ↔ cleanSpecifier specifier = none ∨ ∃ s, cleanSpecifier specifier = some s ∧
      (Climbs 0 (steps language importer s) ∨
        ∀ path ∈ sought language importer s, ¬ isFile path)) := by
  intro found isFile
  have hfound : found = (resolve isFile importer specifier language).value := rfl
  have hnames := fun target h => (exists_names_of_resolve (hfound.symm.trans h) :
    isFile target ∧ ∃ ms, ProperNames ms ∧ target = "/".intercalate ms)
  rw [value_resolve_eq_find?] at hfound
  cases hclean : cleanSpecifier specifier with
  | none => simp [hfound, probes_of_clean_none hclean]
  | some s =>
    -- steps that leave the root leave nothing to look at
    by_cases hclimbs : Climbs 0 (steps language importer s)
    · rw [probes_eq_nil hclean hclimbs] at hfound
      simp [hfound, hclimbs]
    · rw [probes_eq_sought hclean hclimbs] at hfound
      refine ⟨fun target htarget => ?_, ?_⟩
      · obtain ⟨hfile, ms, hms, rfl⟩ := hnames target htarget
        obtain ⟨c, cs, hchars, hc⟩ := hms.exists_toList
        rw [hfound, List.find?_eq_some_iff_append] at htarget
        obtain ⟨-, before, after, hsought, hbefore⟩ := htarget
        refine ⟨fun heq => ?_, by simp [FileTree.isAbsolute, hchars, hc], fun part hpart => ?_,
          hfile, s, before, after, rfl, hsought,
          fun path hpath => by simpa using hbefore path hpath⟩
        · rw [heq] at hchars
          cases hchars
        · rw [hms.splitAll] at hpart
          have hproper := hms.proper part hpart
          exact ⟨hproper.ne_empty, hproper.ne_dot, hproper.ne_dots⟩
      · simp [hfound, hclimbs, isFile]

end Imports

end CodeGraph
