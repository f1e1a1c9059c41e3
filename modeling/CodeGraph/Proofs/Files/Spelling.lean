import CodeGraph.Proofs.Files.Cleaning
import CodeGraph.Proofs.Files.Normalization

/-! # Spellings of one import

The same file can be imported by its place relative to the importing file and by its place below the
root. What is made of either text depends only on the steps that it means. They are followed one
after the other (`Imports.normalize_eq_follow`): to go down by a name and up again is idle
(`Imports.follow_down_up`), and to go up some directories leaves the first ones
(`Imports.follow_ups`). In Python all of this is said of dotted names
(`Imports.value_resolve_python`): one with dots at its start means what the names of the directories
in their place mean (`Imports.Dotted.find?_relative`). -/

namespace CodeGraph.Imports

open FileTree (names)

/-! ## Following steps -/

/-- The path that steps from the root lead to; `none` if they leave it on the way. -/
def follow (steps : List String) : Option String :=
  (takeSteps [] steps).map fun ns => "/".intercalate ns

/-- **Normalizing a path is following its names** from the root. -/
theorem normalize_eq_follow (path : String) : normalize path = follow (names path) := by
  have hidle : takeSteps [] (Text.splitAll '/' path) = takeSteps [] (names path) := by
    refine Option.ext fun ns => ?_
    rw [takeSteps_eq_some_iff, takeSteps_eq_some_iff, names, List.filter_filter]
    simp only [Bool.and_self]
  rw [normalize, hidle, follow]

section Steps

variable {kept dirs rest : List String}

/-- Proper names are steps down, all of them. -/
theorem takeSteps_names (h : ∀ name ∈ dirs, ProperName name) :
    takeSteps kept (dirs ++ rest) = takeSteps (dirs.reverse ++ kept) rest :=
  takeSteps_ordinary fun name hname => isOrdinary_of_properName (h name hname)

/-- As many steps up as there are names to leave take the last of these names back. -/
theorem takeSteps_ups {n : Nat} (h : n ≤ kept.length) :
    takeSteps kept (List.replicate n ".." ++ rest) = takeSteps (kept.drop n) rest := by
  induction n generalizing kept with
  | zero => rfl
  | succ n ih =>
    obtain ⟨name, kept, rfl⟩ := List.exists_cons_of_length_pos (Nat.lt_of_lt_of_le n.succ_pos h)
    rw [List.replicate_succ, List.cons_append, takeSteps_up, ih (Nat.le_of_succ_le_succ h),
      List.drop_succ_cons]

variable (h : ∀ name ∈ dirs, ProperName name)
include h

/-- **To go up some directories leaves the first ones.** -/
theorem follow_ups {n : Nat} (hn : n ≤ dirs.length) :
    follow (dirs ++ (List.replicate n ".." ++ rest))
      = follow (dirs.take (dirs.length - n) ++ rest) := by
  have htake : ∀ name ∈ dirs.take (dirs.length - n), ProperName name :=
    fun name hname => h name (List.mem_of_mem_take hname)
  rw [follow, follow, takeSteps_names h, takeSteps_names htake, takeSteps_ups (by simpa using hn),
    List.append_nil, List.append_nil, List.drop_reverse]

/-- **To go down and up again is idle.** -/
theorem follow_down_up {name : String} (hname : ProperName name) :
    follow (dirs ++ [name] ++ ".." :: rest) = follow (dirs ++ rest) := by
  have hdown : ∀ n ∈ dirs ++ [name], ProperName n := by
    intro n hn
    rcases List.mem_append.1 hn with hn | hn
    · exact h n hn
    · exact List.mem_singleton.1 hn ▸ hname
  have hup := @follow_ups (dirs ++ [name]) rest hdown 1 (by simp)
  rw [List.length_append, List.length_singleton, Nat.add_sub_cancel, List.take_left] at hup
  exact hup

end Steps

/-! ## Relative and absolute paths -/

/-- The directory of a file is what stands before its name. -/
theorem names_parentDir {dirs : List String} {file : String} (h : ProperNames dirs)
    (hfile : '/' ∉ file.toList) :
    names (parentDir ("/".intercalate dirs ++ "/" ++ file)) = dirs := by
  have hsplit : Text.splitAll '/' ("/".intercalate dirs ++ "/" ++ file) = dirs ++ [file] := by
    rw [Text.splitAll_append rfl, h.splitAll, Text.splitAll_of_not_mem hfile]
  rw [parentDir]
  cases hlast : Text.splitLast? '/' ("/".intercalate dirs ++ "/" ++ file) with
  | none =>
    -- what cannot be split has one part only
    have hone := Text.splitAll_of_splitLast?_eq_none hlast
    have hlength := congrArg List.length (hsplit.symm.trans hone)
    have hpos := List.length_pos_iff.2 h.ne_nil
    rw [List.length_append, List.length_singleton, List.length_singleton] at hlength
    omega
  | some split =>
    obtain ⟨dir, name⟩ := split
    have hparts := (Text.of_splitLast? hlast).2
    rw [hsplit] at hparts
    have hdir : dirs = Text.splitAll '/' dir := List.append_inj_left' hparts rfl
    have hnames := h.names
    rw [names, h.splitAll] at hnames
    rw [names, ← hdir, hnames]

/-- Outside Python, an import means the first file that can stand for the place its steps lead
to. -/
theorem value_resolve_script {language : Language} (h : language ≠ .python)
    (isFile : String → Bool) (importer specifier : String) :
    (resolve isFile importer specifier language).value
      = (cleanSpecifier specifier).bind fun s =>
        (follow (steps language importer s)).bind (probe isFile) := by
  have hparent : ∀ s, probeParent isFile language importer s = none := by
    intro s
    cases language with
    | python => exact absurd rfl h
    | javaScript => rfl
    | typeScript => rfl
  rw [value_resolve]
  simp only [normalize_eq_follow, names_meant, hparent, Option.or_none]

section Scripts

variable {dirs : List String} {file : String} {language : Language}

/-- A text that is split at a slash means the steps of both parts. -/
theorem names_of_toList {text before after : String}
    (h : text.toList = before.toList ++ '/' :: after.toList) :
    names text = names before ++ names after := by
  have htext : text = before ++ "/" ++ after := by
    rw [← String.toList_inj, h]
    simp
  rw [htext, FileTree.names_append]

/-- Outside Python, a relative specifier means steps from the directory of the importing file, and
any other means steps from the root. -/
theorem steps_script (hlanguage : language ≠ .python) (importer specifier : String) :
    steps language importer specifier
      = (if isRelative specifier then names (parentDir importer) else []) ++ names specifier := by
  cases language with
  | python => exact absurd rfl hlanguage
  | javaScript => rfl
  | typeScript => rfl

variable (hlanguage : language ≠ .python)
include hlanguage

/-- A specifier that begins with a slash means steps from the root. -/
theorem steps_root (importer rest : String) :
    steps language importer ("/" ++ rest) = names rest := by
  have hslash : ∀ text : String, text.toList.head? ≠ some '/' → "/" ++ rest ≠ text := by
    rintro text hhead rfl
    simp at hhead
  have hdot : "/" ++ rest ≠ "." := hslash "." (by decide)
  have hdots : "/" ++ rest ≠ ".." := hslash ".." (by decide)
  have hrelative : isRelative ("/" ++ rest) = false := by simp [isRelative, hdot, hdots]
  have hnames : names ("/" ++ rest) = names "" ++ names rest := names_of_toList (by simp)
  rw [steps_script hlanguage, hrelative, hnames]
  simp

variable (h : ProperNames dirs) (hfile : '/' ∉ file.toList)
include h hfile

/-- A specifier that begins with `./` means steps from the directory of the importing file. -/
theorem steps_here (rest : String) :
    steps language ("/".intercalate dirs ++ "/" ++ file) ("./" ++ rest) = dirs ++ names rest := by
  have hrelative : isRelative ("./" ++ rest) := by simp [isRelative]
  have hnames : names ("./" ++ rest) = names "." ++ names rest := names_of_toList (by simp)
  have hidle : names "." = [] := by decide
  rw [steps_script hlanguage, if_pos hrelative, names_parentDir h hfile, hnames, hidle,
    List.nil_append]

/-- A specifier that begins with `../` means a step up from the directory of the importing file. -/
theorem steps_up (rest : String) :
    steps language ("/".intercalate dirs ++ "/" ++ file) ("../" ++ rest)
      = dirs ++ ".." :: names rest := by
  have hrelative : isRelative ("../" ++ rest) := by simp [isRelative]
  have hnames : names ("../" ++ rest) = names ".." ++ names rest := names_of_toList (by simp)
  have hup : names ".." = [".."] := by decide
  rw [steps_script hlanguage, if_pos hrelative, names_parentDir h hfile, hnames, hup,
    List.singleton_append]

end Scripts

/-! ## Relative and absolute dotted names -/

namespace Dotted

/-- The file that a dotted name means: one that it can stand for itself, or else one that the module
around it can stand for. -/
def find? (m : Dotted) (isFile : String → Bool) (importer : String) : Option String :=
  (follow (m.steps importer)).bind fun path =>
    (probe isFile path).or (m.outer?.bind fun outer =>
      (follow (outer.steps importer)).bind (probe isFile))

variable {dirs parts : List String} {importer : String} {n : Nat}

/-- A dotted name without dots at its start means the steps of its parts, from the root. -/
theorem steps_absolute (h : ∀ name ∈ dirs, ProperName name) (importer : String) :
    steps ⟨0, dirs ++ parts⟩ importer = dirs ++ parts.flatMap names := by
  have hdirs : dirs.flatMap names = dirs := by
    rw [← FileTree.names_intercalate]
    by_cases hnil : dirs = []
    · simp [hnil]
    · exact ProperNames.names ⟨hnil, h⟩
  rw [steps, if_pos rfl, List.nil_append, List.flatMap_append, hdirs]

section Relative

variable (h : ProperNames dirs) (himporter : names (parentDir importer) = dirs) (hn : 1 ≤ n)
  (hle : n ≤ dirs.length)
include h himporter hn hle

/-- Dots at the start lead to the directory that is as many levels up, less one. -/
theorem follow_steps_relative (parts : List String) (other : String) :
    follow (steps ⟨n, parts⟩ importer)
      = follow (steps ⟨0, dirs.take (dirs.length - n + 1) ++ parts⟩ other) := by
  have htake : ∀ name ∈ dirs.take (dirs.length - n + 1), ProperName name :=
    fun name hname => h.proper name (List.mem_of_mem_take hname)
  have hsteps : steps ⟨n, parts⟩ importer
      = dirs ++ (List.replicate (n - 1) ".." ++ parts.flatMap names) := by
    rw [steps, if_neg (Nat.ne_of_gt hn), himporter, List.append_assoc]
  have hcount : dirs.length - n + 1 = dirs.length - (n - 1) := by omega
  rw [hsteps, follow_ups h.proper (by omega), steps_absolute htake, hcount]

/-- **A relative name means what its absolute form means**, wherever that is written. -/
theorem find?_relative (hparts : parts ≠ []) (isFile : String → Bool) (other : String) :
    find? ⟨n, parts⟩ isFile importer
      = find? ⟨0, dirs.take (dirs.length - n + 1) ++ parts⟩ isFile other := by
  have hlength : 0 < parts.length := List.length_pos_iff.2 hparts
  have hrelative : outer? ⟨n, parts⟩ = some ⟨n, parts.dropLast⟩ := by
    rw [outer?, if_neg]
    rintro (hnil | ⟨hzero, -⟩)
    · exact hparts hnil
    · dsimp only at hzero
      omega
  have habsolute : outer? ⟨0, dirs.take (dirs.length - n + 1) ++ parts⟩
      = some ⟨0, dirs.take (dirs.length - n + 1) ++ parts.dropLast⟩ := by
    rw [outer?, if_neg]
    · dsimp only
      rw [List.dropLast_append_of_ne_nil hparts]
    · rintro (hnil | ⟨-, hone⟩)
      · exact hparts (List.append_eq_nil_iff.1 hnil).2
      · dsimp only at hone
        rw [List.length_append, List.length_take] at hone
        omega
  rw [find?, find?, hrelative, habsolute, Option.bind_some, Option.bind_some,
    follow_steps_relative h himporter hn hle parts other,
    follow_steps_relative h himporter hn hle parts.dropLast other]

end Relative

end Dotted

/-- **In Python an import means what its dotted name means.** -/
theorem value_resolve_python (isFile : String → Bool) (importer specifier : String) :
    (resolve isFile importer specifier .python).value
      = (cleanSpecifier specifier).bind fun s => (Dotted.ofText s).find? isFile importer := by
  have hmeant : ∀ s, normalize (meant .python importer s)
      = follow ((Dotted.ofText s).steps importer) := by
    intro s
    rw [normalize_eq_follow, names_meant]
    rfl
  have hparent : ∀ s, probeParent isFile .python importer s
      = (Dotted.ofText s).outer?.bind fun outer =>
        (follow (outer.steps importer)).bind (probe isFile) := by
    intro s
    rw [← Dotted.ofText_pythonParent, probeParent]
    cases pythonParent s with
    | none => rfl
    | some parent =>
      rw [Option.bind_eq_bind, Option.bind_some, Option.map_some, Option.bind_some,
        normalize_eq_follow, names_pythonPath]
  rw [value_resolve]
  simp only [hmeant, hparent, Dotted.find?]

/-! ## Spellings agree -/

/-- A text of dots and then a name is read as so many dots and the parts of the name. -/
theorem Dotted.ofText_dots (n : Nat) {rest : String} (h : BeginsPlain rest) :
    ofText (String.ofList (List.replicate n '.') ++ rest) = ⟨n, Text.splitAll '.' rest⟩ := by
  obtain ⟨c, cs, hcs, hplain⟩ := h
  have hjoin : String.ofList (List.replicate n '.') ++ rest
      = String.ofList (List.replicate n '.' ++ rest.toList) := by simp
  have hhead : rest.toList.head? ≠ some '.' := by
    rw [hcs, List.head?_cons]
    rintro heq
    cases heq
    cases hplain
  have hne : rest.toList ≠ [] := by simp [hcs]
  rw [hjoin, ofText_append (fun c hc => List.eq_of_mem_replicate hc) hhead, if_neg hne,
    List.length_replicate, String.ofList_toList]

/-- A text that begins with plain names and no dot is read as a dotted name with these parts
first. -/
theorem Dotted.ofText_absolute {dirs : List String} (h : ∀ dir ∈ dirs, PlainName dir)
    (hne : dirs ≠ []) (rest : String) :
    ofText (".".intercalate dirs ++ "." ++ rest) = ⟨0, dirs ++ Text.splitAll '.' rest⟩ := by
  have hplain : BeginsPlain (".".intercalate dirs ++ ("." ++ rest)) :=
    beginsPlain_intercalate h hne "." _
  rw [← String.append_assoc] at hplain
  have htext := ofText_dots 0 hplain
  rw [Text.splitAll_of_toList (a := ".".intercalate dirs) (b := rest) (by simp),
    Text.splitAll_join rfl (fun dir hdir => (h dir hdir).not_mem rfl) hne] at htext
  simpa using htext

section Agreement

variable {dirs : List String} {file : String} (hne : dirs ≠ [])
  (hdirs : ∀ dir ∈ dirs, PlainName dir) (hfile : '/' ∉ file.toList) (isFile : String → Bool)
include hdirs

/-- Cleaning takes nothing away from an absolute path of plain names. -/
theorem solid_path : Solid ("/" ++ "/".intercalate dirs ++ "/") := by
  have hhere := solid_intercalate solid_slash fun dir hdir => (hdirs dir hdir).solid
  exact (solid_slash.append hhere).append solid_slash

include hne

/-- Plain names are proper ones. -/
theorem properNames_of_plain : ProperNames dirs := ⟨hne, fun dir hdir => (hdirs dir hdir).proper⟩

section Scripts

variable {language : Language} (hlanguage : language ≠ .python)
include hlanguage

/-- An absolute specifier means what its directories and the rest of it lead to from the root. -/
theorem value_resolve_root (importer rest : String) :
    (resolve isFile importer ("/" ++ "/".intercalate dirs ++ "/" ++ rest) language).value
      = (follow (dirs ++ names (cleanEnd rest))).bind (probe isFile) := by
  have hnonempty : "/" ++ "/".intercalate dirs ++ "/" ≠ "" := by simp
  have hsteps : steps language importer ("/" ++ "/".intercalate dirs ++ "/" ++ cleanEnd rest)
      = dirs ++ names (cleanEnd rest) := by
    rw [String.append_assoc, String.append_assoc, steps_root hlanguage, ← String.append_assoc,
      FileTree.names_append, (properNames_of_plain hne hdirs).names]
  rw [value_resolve_script hlanguage, cleanSpecifier_append hnonempty (solid_path hdirs),
    Option.bind_some, hsteps]

include hfile

/-- A specifier with `./` means what the directory of the importing file and the rest of it lead
to. -/
theorem value_resolve_here (rest : String) :
    (resolve isFile ("/".intercalate dirs ++ "/" ++ file) ("./" ++ rest) language).value
      = (follow (dirs ++ names (cleanEnd rest))).bind (probe isFile) := by
  have hsolid : Solid "./" := solid_dot.append solid_slash
  rw [value_resolve_script hlanguage, cleanSpecifier_append (by simp) hsolid,
    Option.bind_some, steps_here hlanguage (properNames_of_plain hne hdirs) hfile]

/-- A specifier with `../` means what the parent of the importing file's directory and the rest of
it lead to. -/
theorem value_resolve_up {dir : String} (hdir : ProperName dir) (rest : String) :
    (resolve isFile ("/".intercalate dirs ++ "/" ++ dir ++ "/" ++ file) ("../" ++ rest)
        language).value
      = (follow (dirs ++ names (cleanEnd rest))).bind (probe isFile) := by
  have hproper := (properNames_of_plain hne hdirs).proper
  have hjoin : "/".intercalate dirs ++ "/" ++ dir = "/".intercalate (dirs ++ [dir]) := by
    rw [String.intercalate_append_of_ne_nil hne (List.cons_ne_nil _ _),
      String.intercalate_singleton]
  have hsolid : Solid "../" := (solid_dot.append solid_dot).append solid_slash
  rw [value_resolve_script hlanguage, cleanSpecifier_append (by simp) hsolid,
    Option.bind_some, hjoin, steps_up hlanguage (properNames_concat hproper hdir) hfile,
    follow_down_up hproper hdir]

end Scripts

include hfile

/-- Dots at the start of a name in Python stand for the first directories of the importing file. -/
theorem value_resolve_dots {n : Nat} (hn : 1 ≤ n) (hle : n ≤ dirs.length) {name : String}
    (hname : BeginsPlain name) (importer : String) :
    (resolve isFile ("/".intercalate dirs ++ "/" ++ file)
        (String.ofList (List.replicate n '.') ++ name) .python).value
      = (resolve isFile importer
          (".".intercalate (dirs.take (dirs.length - n + 1)) ++ "." ++ name) .python).value := by
  have hproper := properNames_of_plain hne hdirs
  have htake : ∀ dir ∈ dirs.take (dirs.length - n + 1), PlainName dir :=
    fun dir hdir => hdirs dir (List.mem_of_mem_take hdir)
  have htakene : dirs.take (dirs.length - n + 1) ≠ [] := by simp [hne]
  have hdotsne : String.ofList (List.replicate n '.') ≠ "" := by
    intro hnil
    have hlength := congrArg String.length hnil
    simp at hlength
    omega
  have hmodule : Solid (".".intercalate (dirs.take (dirs.length - n + 1)) ++ ".") :=
    (solid_intercalate solid_dot fun dir hdir => (htake dir hdir).solid).append solid_dot
  have hmodulene : ".".intercalate (dirs.take (dirs.length - n + 1)) ++ "." ≠ "" := by simp
  have hparts : Text.splitAll '.' (cleanEnd name) ≠ [] := by
    simp [Text.splitAll, List.splitOn_ne_nil]
  rw [value_resolve_python, value_resolve_python, cleanSpecifier_append hdotsne (solid_dots n),
    cleanSpecifier_append hmodulene hmodule, Option.bind_some, Option.bind_some,
    Dotted.ofText_dots n hname.cleanEnd, Dotted.ofText_absolute htake htakene]
  exact Dotted.find?_relative hproper (names_parentDir hproper hfile) hn hle hparts isFile importer

end Agreement

/-- **Relative and absolute spellings agree**, in every tree and for every file in a directory of
plain names. In scripts the text after `./` means what it means below that directory from the root,
whoever imports it, and one that begins with `../` in a directory inside means what it means after
`./` outside. In Python dots at the start stand for the names of the first directories, as many as
are left when each dot but the first has gone up one of them. Nothing is asked of what follows, but
that in Python it begins as a name does: it may have steps up, empty parts or a query, it may leave
the root, and it may mean nothing or something in the module around it. -/
theorem spellings_agree (t : FileTree) (root dirs : List String) (file : String) (hne : dirs ≠ [])
    (hdirs : ∀ dir ∈ dirs, PlainName dir) (hfile : '/' ∉ file.toList) :
    let found := fun language importer specifier =>
      (resolve (Run.isFileBelow t root) importer specifier language).value
    let here := "/".intercalate dirs
    (∀ language ∈ [Language.javaScript, Language.typeScript], ∀ rest : String,
      (∀ importer, found language (here ++ "/" ++ file) ("./" ++ rest)
        = found language importer ("/" ++ here ++ "/" ++ rest)) ∧
      ∀ dir, ProperName dir →
        found language (here ++ "/" ++ dir ++ "/" ++ file) ("../" ++ rest)
          = found language (here ++ "/" ++ file) ("./" ++ rest)) ∧
    ∀ n, 1 ≤ n → n ≤ dirs.length → ∀ name, BeginsPlain name → ∀ importer,
      found .python (here ++ "/" ++ file) (String.ofList (List.replicate n '.') ++ name)
        = found .python importer
          (".".intercalate (dirs.take (dirs.length - n + 1)) ++ "." ++ name) := by
  intro found here
  refine ⟨fun language hlanguage rest => ?_, fun n hn hle name hname importer => ?_⟩
  · have hscript : language ≠ .python := by
      rintro rfl
      simp at hlanguage
    have hhere := value_resolve_here hne hdirs hfile (Run.isFileBelow t root) hscript rest
    refine ⟨fun importer => ?_, fun dir hdir => ?_⟩
    · exact hhere.trans (value_resolve_root hne hdirs _ hscript importer rest).symm
    · exact (value_resolve_up hne hdirs hfile _ hscript hdir rest).trans hhere.symm
  · exact value_resolve_dots hne hdirs hfile _ hn hle hname importer

/-- A query after steps up, a directory with a dot in its name, and a name in a module one level
up. -/
theorem spellings_agree_package :
    let shared : Entry := .dir [("shared.py", .file "tool = 1\n".toUTF8), ("sub", .dir [])]
    let t : FileTree := { root := .dir [("repo", .dir [("pkg", shared)])] }
    let found := fun language importer specifier =>
      (resolve (Run.isFileBelow t ["repo"]) importer specifier language).value
    ["pkg", "sub"] ≠ [] ∧ (∀ dir ∈ ["pkg", "sub"], PlainName dir) ∧ '/' ∉ "mod.py".toList ∧
      ProperName "v1.2" ∧ BeginsPlain "shared.tool" ∧
      found .typeScript "pkg/sub/mod.py" "./../shared.py?raw;"
        = found .typeScript "main.ts" "/pkg/sub/../shared.py?raw;" ∧
      found .javaScript "pkg/sub/v1.2/mod.py" "../../shared.py"
        = found .javaScript "pkg/sub/mod.py" "./../shared.py" ∧
      found .python "pkg/sub/mod.py" "..shared.tool"
        = found .python "main.py" "pkg.shared.tool" := by
  intro shared t found
  have hpkg : PlainName "pkg" := ⟨by simp, by simp [isPlain, isSolid, Text.isBlank]⟩
  have hsub : PlainName "sub" := ⟨by simp, by simp [isPlain, isSolid, Text.isBlank]⟩
  have hdirs : ∀ dir ∈ ["pkg", "sub"], PlainName dir := by simp [hpkg, hsub]
  have hplain : BeginsPlain "shared.tool" := ⟨'s', _, rfl, rfl⟩
  obtain ⟨hscript, hpython⟩ := spellings_agree t ["repo"] ["pkg", "sub"] "mod.py" (by simp) hdirs
    (by decide)
  refine ⟨by simp, hdirs, by decide, by decide, hplain, ?_, ?_, ?_⟩
  · exact (hscript .typeScript (by simp) "../shared.py?raw;").1 "main.ts"
  · exact (hscript .javaScript (by simp) "../shared.py").2 "v1.2" (by decide)
  · exact hpython 2 (by decide) (by decide) "shared.tool" hplain "main.py"

end CodeGraph.Imports
