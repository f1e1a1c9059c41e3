import CodeGraph.Command.Run
import CodeGraph.Proofs.Files.Below
import CodeGraph.Proofs.Run.Isolation
import Mathlib

/-! # Printed facts and written facts

The facts of a file are printed by one command and written by another. Each reads the file in its
own way: a run takes any bytes and puts replacements where they are not text, and the command that
prints takes text only. So of a file that can be read both say the same (`Run.Agree`) exactly if it
is text (`Run.printed_as_written_iff_text`).

Of a text, both make the same: they know it by the same path (`Locator.slashed_pathBelow`), the path
leads to the same file (`Locator.read_pathBelow`), and the facts are the same
(`Run.extracted_of_text`). -/

namespace CodeGraph

/-! ## What is printed -/

/-- `Source.extract` is `Source.parse` followed by taking the facts, and fails exactly where that
does. -/
theorem Source.value_extract (tolerant : Bool) (path text : String) :
    (extract tolerant path text).value
      = (parse tolerant path text).value.map fun p => (p.facts path).value := by
  simp only [extract, Logged.value_bind]
  cases (parse tolerant path text).value <;> rfl

/-- If syntax errors are tolerated then every text of a known language can be read. -/
theorem Source.exists_parse_of_tolerant {path : String} {dialect : Dialect}
    (h : dialectOf path = .ok dialect) (text : String) :
    ∃ parsed, (parse true path text).value = .ok parsed := by
  unfold parse
  rw [h]
  unfold parseAs ofTree
  dsimp only
  split
  · exact ⟨_, rfl⟩
  · exact ⟨_, rfl⟩

namespace Command

variable {file : String} {tolerant : Bool} {tree : FileTree}

/-- `runExtract` of a file that cannot be read fails with the reason why. -/
theorem value_runExtract_of_unreadable {e : FileError} (h : tree.readText file = .error e) :
    (runExtract { file, tolerant } tree).value = .error (.sourceUnreadable file e) := by
  unfold runExtract
  rw [h]
  rfl

/-- `runExtract` of a text prints its facts, or fails with the error of its source. -/
theorem value_runExtract_of_text {text : String} (h : tree.readText file = .ok text) :
    (runExtract { file, tolerant } tree).value
      = match (Source.extract tolerant (Path.slashed file) text).value with
        | .error e => .error (.source e)
        | .ok facts => .ok (facts.toJson.pretty ++ "\n") := by
  simp only [runExtract, h, Logged.value_bind]
  cases (Source.extract tolerant (Path.slashed file) text).value <;> rfl

end Command

/-! ## Printed and written -/

namespace Run

variable {config : RunConfig} {t : FileTree} {l : Locator} {home : Option String}
  {place : List String} {bytes : ByteArray} {report : FileReport}

/-- What is printed of a file if its path is given as it is written in the root. -/
def extracted (config : RunConfig) (t : FileTree) (l : Locator) (place : List String) :
    Except CommandError String :=
  (Command.runExtract { file := l.pathBelow place, tolerant := config.tolerant }
    { t with workDir := l.root }).value

/-- **Both commands say the same of a file**: what is printed are the facts whose batch was written
or refused, or else the error for which there are none. -/
def Agree (config : RunConfig) (t : FileTree) (l : Locator) (place : List String)
    (report : FileReport) : Prop :=
  match report.outcome with
  | .ingested counts n => ∃ facts resolved, inspect config t l place = .ok (facts, resolved) ∧
      counts = facts.counts ∧ n = resolved.length ∧
      written config t l [place] [report] = [.apply (Plan.batch facts resolved)] ∧
      extracted config t l place = .ok (facts.toJson.pretty ++ "\n")
  | .failed .writing _ => ∃ facts resolved, inspect config t l place = .ok (facts, resolved) ∧
      extracted config t l place = .ok (facts.toJson.pretty ++ "\n")
  | .failed .parsing problem => ∃ e, inspect config t l place = .error (.parse e) ∧
      problem = e.message ∧ extracted config t l place = .error (.source e)
  | .failed .reading problem => ∃ e,
      problem = (IngestError.read (l.relativePath place) e.message).message ∧
      extracted config t l place = .error (.sourceUnreadable (l.pathBelow place) e)

/-- What can be read has facts, or cannot be parsed. -/
theorem inspect_of_read (hread : t.read (FileTree.absolute place) = .ok bytes) :
    (∃ facts resolved, inspect config t l place = .ok (facts, resolved)) ∨
      ∃ e, inspect config t l place = .error (.parse e) := by
  simp only [inspect, hread]
  cases (Source.parse config.tolerant (l.relativePath place)
    (decode (l.relativePath place) bytes).value).value with
  | error e => exact .inr ⟨e, rfl⟩
  | ok parsed => exact .inl ⟨_, _, rfl⟩

/-- A tolerant run gets facts from every file that it can read and whose language it knows. -/
theorem exists_inspect_of_tolerant (htolerant : config.tolerant = true)
    (hread : t.read (FileTree.absolute place) = .ok bytes) {dialect : Dialect}
    (hdialect : Source.dialectOf (l.relativePath place) = .ok dialect) :
    ∃ facts resolved, inspect config t l place = .ok (facts, resolved) := by
  obtain ⟨parsed, hparsed⟩ := Source.exists_parse_of_tolerant hdialect
    (decode (l.relativePath place) bytes).value
  simp only [inspect, hread, htolerant, hparsed]
  exact ⟨_, _, rfl⟩

section Visited

variable (h : t.root.Proper) (hl : locator? config t home = some l) (hmem : place ∈ l.places t)

include h hl hmem

/-- **What is printed of a text** is what a run makes of it. -/
theorem extracted_of_text {text : String}
    (hread : t.read (FileTree.absolute place) = .ok bytes)
    (htext : String.fromUTF8? bytes = some text) :
    (∀ facts resolved, inspect config t l place = .ok (facts, resolved) →
      extracted config t l place = .ok (facts.toJson.pretty ++ "\n")) ∧
    ∀ e, inspect config t l place = .error (.parse e) →
      extracted config t l place = .error (.source e) := by
  have hreadText : FileTree.readText { t with workDir := l.root } (l.pathBelow place)
      = .ok text := by
    rw [FileTree.readText, Locator.read_pathBelow h (locator?_eq_some_iff.1 hl) hmem, hread]
    simp only [bind, Except.bind, htext]
  have hdecode : (decode (l.relativePath place) bytes).value = text := by
    rw [decode, htext]
    rfl
  -- from here on both commands have the same text and the same path before them
  rw [extracted, Command.value_runExtract_of_text hreadText, Locator.slashed_pathBelow,
    Source.value_extract]
  simp only [inspect, hread, hdecode]
  cases (Source.parse config.tolerant (l.relativePath place) text).value with
  | error e =>
    constructor
    · intro facts resolved hfacts
      cases hfacts
    · intro e' he'
      cases he'
      rfl
  | ok parsed =>
    constructor
    · intro facts resolved hfacts
      cases hfacts
      rfl
    · intro e' he'
      cases he'

/-- A file that is no text is refused by `runExtract` as not being one. -/
theorem extracted_of_not_text (hread : t.read (FileTree.absolute place) = .ok bytes)
    (htext : String.fromUTF8? bytes = none) :
    extracted config t l place = .error (.sourceUnreadable (l.pathBelow place) .notText) := by
  refine Command.value_runExtract_of_unreadable ?_
  rw [FileTree.readText, Locator.read_pathBelow h (locator?_eq_some_iff.1 hl) hmem, hread]
  simp only [bind, Except.bind, htext]

/-- A file that cannot be read is refused by `runExtract` for the same reason. -/
theorem extracted_of_unreadable {e : FileError}
    (hread : t.read (FileTree.absolute place) = .error e) :
    extracted config t l place = .error (.sourceUnreadable (l.pathBelow place) e) := by
  refine Command.value_runExtract_of_unreadable ?_
  rw [FileTree.readText, Locator.read_pathBelow h (locator?_eq_some_iff.1 hl) hmem, hread]
  rfl

/-- Both commands `Agree` about a file that is a text: they parse the same source. -/
theorem agree_of_text {text : String} (hread : t.read (FileTree.absolute place) = .ok bytes)
    (htext : String.fromUTF8? bytes = some text) (hd : Describes config t l place report) :
    Agree config t l place report := by
  obtain ⟨hok, herror⟩ := extracted_of_text h hl hmem hread htext
  rcases inspect_of_read hread with ⟨facts, resolved, hi⟩ | ⟨e, hi⟩
  · rw [Describes, hi] at hd
    rcases hd with rfl | ⟨e, rfl⟩
    · refine ⟨facts, resolved, hi, rfl, rfl, ?_, hok _ _ hi⟩
      rw [written_singleton, planned?, hi]
      rfl
    · exact ⟨facts, resolved, hi, hok _ _ hi⟩
  · rw [Describes, hi] at hd
    subst hd
    exact ⟨e, hi, rfl, herror e hi⟩

/-- Of what is not text the commands say different things, though it can be read. -/
theorem not_agree_of_not_text (hread : t.read (FileTree.absolute place) = .ok bytes)
    (htext : String.fromUTF8? bytes = none) (hd : Describes config t l place report) :
    ¬ Agree config t l place report ∧ ∀ problem, report.outcome ≠ .failed .reading problem := by
  have hprinted : extracted config t l place = _ := extracted_of_not_text h hl hmem hread htext
  have hcases : (∃ facts resolved, inspect config t l place = .ok (facts, resolved)) ∨ _ :=
    inspect_of_read hread
  rcases hcases with ⟨facts, resolved, hi⟩ | ⟨e, hi⟩
  · rw [Describes, hi] at hd
    rcases hd with rfl | ⟨e, rfl⟩
    · refine ⟨?_, fun problem hproblem => by cases hproblem⟩
      rintro ⟨_, _, _, _, _, _, hagree⟩
      cases hprinted.symm.trans hagree
    · refine ⟨?_, fun problem hproblem => by cases hproblem⟩
      rintro ⟨_, _, _, hagree⟩
      cases hprinted.symm.trans hagree
  · rw [Describes, hi] at hd
    subst hd
    refine ⟨?_, fun problem hproblem => by cases hproblem⟩
    rintro ⟨_, _, _, hagree⟩
    cases hprinted.symm.trans hagree

/-- Both commands `Agree` about a file that cannot be read, and the run reports it as failed. -/
theorem agree_of_unreadable {e : FileError}
    (hread : t.read (FileTree.absolute place) = .error e)
    (hd : Describes config t l place report) :
    Agree config t l place report ∧ ∃ problem, report.outcome = .failed .reading problem := by
  have hi : inspect config t l place = .error (.read (l.relativePath place) e.message) := by
    simp only [inspect, hread]
  rw [Describes, hi] at hd
  subst hd
  exact ⟨⟨e, rfl, extracted_of_unreadable h hl hmem hread⟩, _, rfl⟩

/-- **When both commands say the same of a file**, and what happens if they do not. -/
theorem agree_cases (hat : t.root.at? place = some (.file bytes))
    (hd : Describes config t l place report) :
    (Agree config t l place report ∧
      ((∃ problem, report.outcome = .failed .reading problem) ∨
        (String.fromUTF8? bytes).isSome)) ∨
    (¬ Agree config t l place report ∧
      (∀ problem, report.outcome ≠ .failed .reading problem) ∧ String.fromUTF8? bytes = none ∧
      extracted config t l place = .error (.sourceUnreadable (l.pathBelow place) .notText)) := by
  cases hread : t.read (FileTree.absolute place) with
  | error e =>
    obtain ⟨hagree, hreading⟩ := agree_of_unreadable h hl hmem hread hd
    exact .inl ⟨hagree, .inl hreading⟩
  | ok bytes' =>
    obtain rfl : bytes' = bytes := by
      rw [FileTree.read, Locator.resolve_of_mem_places h (locator?_eq_some_iff.1 hl) hmem] at hread
      simp only [bind, Except.bind, hat] at hread
      split at hread
      · cases hread
      · exact (Except.ok.inj hread).symm
    cases htext : String.fromUTF8? bytes' with
    | some text => exact .inl ⟨agree_of_text h hl hmem hread htext hd, .inr rfl⟩
    | none =>
      obtain ⟨hagree, hreading⟩ := not_agree_of_not_text h hl hmem hread htext hd
      exact .inr ⟨hagree, hreading, rfl, extracted_of_not_text h hl hmem hread htext⟩

end Visited

variable {σ : Type} {backend : Backend σ} {around : Surroundings σ} {store : σ → Store}

/-- **Facts are printed as they are written exactly if the file is text.** Each file that a run
visits, whatever its bytes, is printed as the run has it: with the facts whose batch the run has
written, or with the error for which it has failed. The one exception are files that the run can
read and that are not text; these are said to be unreadable, and nothing is printed of them. -/
theorem printed_as_written_iff_text (h : t.root.Proper) (hb : backend.Holds store)
    (ha : around.Still store t home) {elapsed : Nat} {s : σ} {summary : RunSummary}
    (hok : (run config backend around elapsed s).value.1 = .ok summary) :
    ∃ l visited rest, locator? config t home = some l ∧
      Outcome config t l summary visited rest (store s)
        (store (run config backend around elapsed s).value.2.2) ∧
      ∀ (i : Nat) place report, (l.files t).value[i]? = some place →
        summary.reports[i]? = some report →
        ∃ bytes, t.root.at? place = some (.file bytes) ∧
          (Agree config t l place report ↔
            (∃ problem, report.outcome = .failed .reading problem) ∨
              (String.fromUTF8? bytes).isSome) ∧
          (¬ Agree config t l place report → extracted config t l place
            = .error (.sourceUnreadable (l.pathBelow place) .notText)) := by
  obtain ⟨l, visited, rest, hl, houtcome⟩ := exists_outcome hb ha hok
  refine ⟨l, visited, rest, hl, houtcome, fun i place report hplace hreport => ?_⟩
  have hmem : place ∈ l.places t := by
    rw [← Locator.value_files]
    exact List.mem_of_getElem? hplace
  obtain ⟨children, hroot⟩ := Locator.at?_root_of_ofPath (locator?_eq_some_iff.1 hl)
  obtain ⟨bytes, hat⟩ := Locator.exists_file_of_mem_places h hroot hmem
  refine ⟨bytes, hat, ?_⟩
  -- the two sides of the equivalence are decided by the same two cases
  rcases agree_cases h hl hmem hat (houtcome.describes hplace hreport) with
    ⟨hagree, hwhen⟩ | ⟨hdiffer, hreading, htext, hprinted⟩
  · exact ⟨iff_of_true hagree hwhen, fun hdiffer => absurd hagree hdiffer⟩
  · refine ⟨iff_of_false hdiffer ?_, fun _ => hprinted⟩
    rintro (⟨problem, hproblem⟩ | hsome)
    · exact hreading problem hproblem
    · rw [htext] at hsome
      cases hsome

/-! ## A text and a file that is none -/

/-- A repository with a text and a file that is no text. -/
def mixedSample : FileTree :=
  { root := .dir [("repo", .dir
      [("a.py", .file "def f(): pass\n".toUTF8), ("b.py", .file ⟨#[0xff]⟩)])] }

/-- How it is ingested. -/
def mixedConfig : RunConfig :=
  { root := "/repo", extensions := ["py"], ignoring := false, tolerant := true }

/-- How it is walked. -/
def mixedWalk : Locator := { root := ["repo"], extensions := ["py"], ignoring := false }

/-- The sample repository is walked from `/repo`. -/
theorem locator_mixedSample : locator? mixedConfig mixedSample none = some mixedWalk := by
  cbv

/-- The sample repository has proper names, each only once in its directory. -/
theorem proper_mixedSample : mixedSample.root.Proper := by
  have hname : ∀ name ∈ ["repo", "a.py", "b.py"], ProperName name := by decide
  exact ⟨by decide, hname _ (by simp), ⟨by decide, hname _ (by simp), trivial, hname _ (by simp),
    trivial, trivial⟩, trivial⟩

/-- The walk of the sample repository finds its two files, in order. -/
theorem files_mixedSample :
    (mixedWalk.files mixedSample).value = [["repo", "a.py"], ["repo", "b.py"]] := by
  rw [Locator.value_files]
  cbv

/-- One of the two files is a text, and the other is a byte that is none. -/
theorem read_mixedSample :
    mixedSample.read (FileTree.absolute ["repo", "a.py"]) = .ok "def f(): pass\n".toUTF8 ∧
      mixedSample.read (FileTree.absolute ["repo", "b.py"]) = .ok ⟨#[0xff]⟩ := by
  constructor
  all_goals
    rw [FileTree.read, FileTree.resolve_absolute proper_mixedSample rfl (fun _ heq => by cases heq)
      fun heq => by cases heq]
    rfl

/-- Both files are ingested. -/
theorem exists_run_mixedSample :
    ∃ summary counts n counts' n',
      (run mixedConfig (.refusing fun _ => false) (.stopping mixedSample none 2) 0
        (0, .empty)).value.1 = .ok summary ∧
      summary.reports = [⟨"a.py", .ingested counts n⟩, ⟨"b.py", .ingested counts' n'⟩] := by
  obtain ⟨hread, hread'⟩ := read_mixedSample
  have hpath : mixedWalk.relativePath ["repo", "a.py"] = "a.py" := by decide +kernel
  have hpath' : mixedWalk.relativePath ["repo", "b.py"] = "b.py" := by decide +kernel
  have hdialect : Source.dialectOf "a.py" = .ok .python := by decide +kernel
  have hdialect' : Source.dialectOf "b.py" = .ok .python := by decide +kernel
  -- since errors are tolerated, what is in the files need not be parsed to know this
  obtain ⟨facts, resolved, hgives⟩ : ∃ facts resolved,
      inspect mixedConfig mixedSample mixedWalk ["repo", "a.py"] = .ok (facts, resolved) :=
    exists_inspect_of_tolerant rfl hread (hpath ▸ hdialect)
  obtain ⟨facts', resolved', hgives'⟩ : ∃ facts resolved,
      inspect mixedConfig mixedSample mixedWalk ["repo", "b.py"] = .ok (facts, resolved) :=
    exists_inspect_of_tolerant rfl hread' (hpath' ▸ hdialect')
  obtain ⟨summary, hok, hreports, -⟩ := run_interrupted locator_mixedSample 0 .empty
  rw [files_mixedSample] at hreports
  refine ⟨summary, facts.counts, resolved.length, facts'.counts, resolved'.length, hok,
    hreports.trans ?_⟩
  simp [reportsFrom, reportOf, hgives, hgives', hpath, hpath']

/-- The text is printed as it was written, and the file that is none is not printed. -/
theorem printed_as_written_iff_text_mixed :
    ∃ summary first second,
      (run mixedConfig (.refusing fun _ => false) (.stopping mixedSample none 2) 0
        (0, .empty)).value.1 = .ok summary ∧
      summary.reports = [first, second] ∧ first.isFailed = false ∧ second.isFailed = false ∧
      Agree mixedConfig mixedSample mixedWalk ["repo", "a.py"] first ∧
      ¬ Agree mixedConfig mixedSample mixedWalk ["repo", "b.py"] second := by
  obtain ⟨summary, counts, n, counts', n', hok, hreports⟩ := exists_run_mixedSample
  refine ⟨summary, _, _, hok, hreports, rfl, rfl, ?_⟩
  obtain ⟨l, -, -, hl, -, hall⟩ := printed_as_written_iff_text proper_mixedSample
    (Backend.holds_refusing _) (Surroundings.still_stopping mixedSample none 2) hok
  obtain rfl : mixedWalk = l := Option.some.inj (locator_mixedSample.symm.trans hl)
  obtain ⟨bytes, hat, hagree, -⟩ := hall 0 ["repo", "a.py"] _ (by rw [files_mixedSample]; rfl)
    (by rw [hreports]; rfl)
  obtain ⟨bytes', hat', hagree', -⟩ := hall 1 ["repo", "b.py"] _ (by rw [files_mixedSample]; rfl)
    (by rw [hreports]; rfl)
  cases hat
  cases hat'
  refine ⟨hagree.2 (.inr (by decide +kernel)), fun h => ?_⟩
  rcases hagree'.1 h with ⟨problem, hproblem⟩ | htext
  · cases hproblem
  · revert htext
    decide +kernel

/-- A file that is ingested and that cannot be printed. -/
theorem ingested_file_not_printed :
    ∃ summary counts n,
      (run mixedConfig (.refusing fun _ => false) (.stopping mixedSample none 2) 0
        (0, .empty)).value.1 = .ok summary ∧
      summary.reports[1]? = some ⟨"b.py", .ingested counts n⟩ ∧
      (Command.runExtract { file := "b.py", tolerant := mixedConfig.tolerant }
        { mixedSample with workDir := ["repo"] }).value
        = .error (.sourceUnreadable "b.py" .notText) := by
  obtain ⟨summary, _, _, counts, n, hok, hreports⟩ := exists_run_mixedSample
  refine ⟨summary, counts, n, hok, by rw [hreports]; rfl, ?_⟩
  have hmem : ["repo", "b.py"] ∈ mixedWalk.places mixedSample := by
    rw [← Locator.value_files, files_mixedSample]
    exact List.mem_cons_of_mem _ (List.mem_singleton_self _)
  have hpath : mixedWalk.pathBelow ["repo", "b.py"] = "b.py" := by decide +kernel
  have hprinted := extracted_of_not_text proper_mixedSample locator_mixedSample hmem
    read_mixedSample.2 (by decide +kernel)
  rwa [extracted, hpath] at hprinted

end Run

end CodeGraph
