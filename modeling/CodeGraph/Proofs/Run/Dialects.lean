import CodeGraph.Proofs.Files.Order
import CodeGraph.Proofs.Files.Resolution
import CodeGraph.Proofs.Run.Collisions

/-! # Dialects of visited files

A walk looks at the extension of a name, and the parser at the extension of the path under which the
file is known. The path has slashes in place of backslashes, so that its last part can be less than
the name: it is what follows the last backslash. If that is no more than a dot and the extension,
the dot counts as the start of a hidden name and the path has no extension at all
(`Path.extension?_of_getLast?`).

With the extensions that are looked for by default, this is the only way in which a file that is
visited has no dialect, and else it has the dialect of its own extension
(`Run.unsupported_iff_bare`). -/

namespace CodeGraph

/-! ## Extensions of names and of paths -/

/-- Whether an extension is one that is looked for by default, in any case of its letters. -/
def IsSourceExtension (ext : String) : Prop := ext.map Char.toLower ∈ sourceExtensions

namespace IsSourceExtension

variable {ext : String}

/-- A mark that is in no extension as they are listed is in none in any case of the letters. -/
theorem not_mem (h : IsSourceExtension ext) {c : Char} (hlower : c.toLower = c)
    (hnone : ∀ e ∈ sourceExtensions, c ∉ e.toList) : c ∉ ext.toList := by
  intro hc
  refine hnone _ h ?_
  rw [String.toList_map, ← hlower]
  exact List.mem_map_of_mem hc

/-- No dot stands in an extension that is looked for by default. -/
theorem no_dot (h : IsSourceExtension ext) : '.' ∉ ext.toList :=
  h.not_mem rfl (by simp [sourceExtensions])

/-- No backslash stands in an extension that is looked for by default. -/
theorem no_backslash (h : IsSourceExtension ext) : '\\' ∉ ext.toList :=
  h.not_mem rfl (by simp [sourceExtensions])

/-- An extension that is looked for by default is not empty, and more than dots. -/
theorem exists_mem (h : IsSourceExtension ext) : ∃ c, c ∈ ext.toList ∧ c ≠ '.' := by
  have hne : ext ≠ "" := by
    rintro rfl
    have hlower : "".map Char.toLower = "" := by simp [← String.toList_inj]
    rw [IsSourceExtension, hlower] at h
    exact absurd h (by decide)
  obtain ⟨c, cs, hcs⟩ := Text.exists_toList_eq_cons hne
  have hc : c ∈ ext.toList := by simp [hcs]
  exact ⟨c, hc, fun heq => h.no_dot (heq ▸ hc)⟩

/-- There is a dialect for each of these extensions. -/
theorem exists_dialect (h : IsSourceExtension ext) :
    ∃ dialect, Dialect.ofExtension? ext = some dialect := by
  unfold IsSourceExtension at h
  unfold Dialect.ofExtension?
  generalize ext.map Char.toLower = lower at h
  simp only [sourceExtensions, List.mem_cons, List.not_mem_nil, or_false] at h
  rcases h with rfl | rfl | rfl | rfl | rfl | rfl | rfl | rfl | rfl <;> exact ⟨_, rfl⟩

end IsSourceExtension

namespace Path

/-- What follows the last dot is the extension, if something stands before it. -/
theorem extensionOfName?_append (stem : String) {ext : String} (h : '.' ∉ ext.toList) :
    extensionOfName? (stem ++ "." ++ ext) = if stem = "" then none else some ext := by
  have hsplit : Text.splitAll '.' (stem ++ "." ++ ext) = Text.splitAll '.' stem ++ [ext] := by
    rw [← Text.splitAll_of_not_mem h]
    refine Text.splitAll_of_toList ?_
    simp
  have hempty : Text.splitAll '.' stem = [""] ↔ stem = "" :=
    (Text.splitAll_injective '.').eq_iff' rfl
  have hreverse : (Text.splitAll '.' stem).reverse = [""] ↔ stem = "" := by
    rw [← hempty, List.reverse_eq_iff, List.reverse_singleton]
  rw [extensionOfName?, hsplit, List.reverse_append, List.reverse_singleton, List.singleton_append]
  simp [hreverse, Text.splitAll_ne_nil]

/-- A name with an extension is a nonempty stem, a dot and the extension. -/
theorem exists_of_extensionOfName? {name ext : String} (h : extensionOfName? name = some ext) :
    ∃ stem, stem ≠ "" ∧ name = stem ++ "." ++ ext := by
  cases hsplit : Text.splitLast? '.' name with
  | none => simp [extensionOfName?, Text.splitAll_of_splitLast?_eq_none hsplit] at h
  | some parts =>
    obtain ⟨stem, last⟩ := parts
    obtain ⟨hchars, hparts⟩ := Text.of_splitLast? hsplit
    simp only [extensionOfName?, hparts, List.reverse_append, List.reverse_singleton,
      List.singleton_append] at h
    split at h
    · cases h
    · next hstem =>
      cases h
      refine ⟨stem, ?_, ?_⟩
      · rintro rfl
        exact hstem rfl
      · rw [← String.toList_inj, hchars]
        simp

/-- The last part of a path is its name, if there is more in it than dots. -/
theorem fileName?_of_getLast? {path name : String} {c : Char}
    (h : (Text.splitAll '/' path).getLast? = some name) (hc : c ∈ name.toList) (hdot : c ≠ '.') :
    fileName? path = some name := by
  have hempty : name ≠ "" := by rintro rfl; simp at hc
  have hone : name ≠ "." := by rintro rfl; simp [hdot] at hc
  have htwo : name ≠ ".." := by rintro rfl; simp [hdot] at hc
  obtain ⟨before, hbefore⟩ := List.getLast?_eq_some_iff.1 h
  have hlast : (parts path).getLast? = some name := by
    unfold parts
    rw [hbefore]
    cases before with
    | nil => simp [hempty]
    | cons first rest =>
      have hkept : (rest ++ [name]).filter (fun p => p != "" && p != ".")
          = rest.filter (fun p => p != "" && p != ".") ++ [name] := by
        simp [hempty, hone]
      simp only [List.cons_append, hkept]
      -- an empty first part is left out, and neither way is it the last
      by_cases hfirst : first = ""
      · simp [hfirst]
      · rw [beq_false_of_ne hfirst, if_neg Bool.false_ne_true, ← List.cons_append,
          List.getLast?_concat]
  simp [fileName?, hlast, hone, htwo]

/-- Whether a name ends in a backslash, a dot and an extension: cut at backslashes, its last part
has nothing before the extension. -/
def IsBare (name ext : String) : Prop := ∃ before, name = before ++ "\\" ++ "." ++ ext

/-- A stem with an extension `IsBare` exactly when the stem ends in a backslash. -/
theorem isBare_append {stem ext : String} :
    IsBare (stem ++ "." ++ ext) ext ↔ ∃ before, stem = before ++ "\\" := by
  simp only [IsBare, String.append_left_inj]

/-- **The last part of a name that is cut at backslashes** ends in the extension too, and has
nothing before it exactly if the name is bare. -/
theorem getLast?_splitAll_append {stem ext : String} (hstem : stem ≠ "") (h : '\\' ∉ ext.toList) :
    ∃ tail, (Text.splitAll '\\' (stem ++ "." ++ ext)).getLast? = some (tail ++ "." ++ ext) ∧
      (tail = "" ↔ IsBare (stem ++ "." ++ ext) ext) := by
  -- a text without backslashes that ends in the extension is not cut
  have huncut : ∀ {tail : String}, '\\' ∉ tail.toList →
      Text.splitAll '\\' (tail ++ "." ++ ext) = [tail ++ "." ++ ext] := by
    intro tail htail
    refine Text.splitAll_of_not_mem ?_
    simp [htail, h]
  rw [isBare_append]
  cases hsplit : Text.splitLast? '\\' stem with
  | none =>
    have hone := Text.splitAll_of_splitLast?_eq_none hsplit
    have hno : '\\' ∉ stem.toList := Text.not_mem_of_mem_splitAll (s := stem) (by simp [hone])
    refine ⟨stem, ?_, ?_⟩
    · rw [huncut hno, List.getLast?_singleton]
    · refine iff_of_false hstem ?_
      rintro ⟨before, rfl⟩
      simp at hno
  | some parts =>
    obtain ⟨before, tail⟩ := parts
    obtain ⟨hchars, hparts⟩ := Text.of_splitLast? hsplit
    have hno : '\\' ∉ tail.toList := Text.not_mem_of_mem_splitAll (s := stem) (by simp [hparts])
    refine ⟨tail, ?_, ?_⟩
    · have hcut : Text.splitAll '\\' (stem ++ "." ++ ext)
          = Text.splitAll '\\' before ++ Text.splitAll '\\' (tail ++ "." ++ ext) :=
        Text.splitAll_of_toList (by simp [hchars])
      rw [hcut, huncut hno, List.getLast?_append, List.getLast?_singleton, Option.some_or]
    · constructor
      · rintro rfl
        exact ⟨before, by simp [← String.toList_inj, hchars]⟩
      · rintro ⟨before', rfl⟩
        have hends : Text.splitAll '\\' (before' ++ "\\")
            = Text.splitAll '\\' before' ++ Text.splitAll '\\' "" :=
          Text.splitAll_of_toList (by simp)
        have hlast := congrArg List.getLast? (hparts.symm.trans hends)
        simpa [Text.splitAll_of_not_mem] using hlast

/-- **The extension of a path** whose last part ends in an extension of the default: there is none
if nothing stands before it. -/
theorem extension?_of_getLast? {path tail ext : String} (hext : IsSourceExtension ext)
    (h : (Text.splitAll '/' path).getLast? = some (tail ++ "." ++ ext)) :
    extension? path = if tail = "" then none else some ext := by
  obtain ⟨c, hc, hdot⟩ := hext.exists_mem
  have hname : fileName? path = some (tail ++ "." ++ ext) :=
    fileName?_of_getLast? h (by simp [hc]) hdot
  rw [extension?, hname, Option.bind_some, extensionOfName?_append tail hext.no_dot]

end Path

/-! ## Visited files -/

namespace Locator

variable {l : Locator} {t : FileTree} {place : List String}

/-- The extensions that are looked for by default are normal already. -/
theorem normalExtension_sourceExtensions :
    sourceExtensions.map normalExtension = sourceExtensions := by
  cbv

section Visited

variable {children : List (String × Entry)} (h : t.root.Proper)
  (hroot : t.root.at? l.root = some (.dir children)) (hplace : place ∈ l.places t)

include h hroot hplace

/-- A file that is visited by default has an extension of the default. -/
theorem exists_sourceExtension (hl : l.extensions = sourceExtensions) :
    ∃ before stem ext, place = l.root ++ before ++ [stem ++ "." ++ ext] ∧ stem ≠ "" ∧
      Path.extensionOfName? (stem ++ "." ++ ext) = some ext ∧ IsSourceExtension ext := by
  obtain ⟨way, bytes, rfl, -, -, ⟨name, hlast, hwants⟩, -⟩ := (mem_places_iff h hroot).1 hplace
  obtain ⟨before, rfl⟩ := List.getLast?_eq_some_iff.1 hlast
  rw [wants, hl] at hwants
  cases hext : Path.extensionOfName? name with
  | none => simp [hext] at hwants
  | some ext =>
    rw [hext] at hwants
    obtain ⟨stem, hstem, rfl⟩ := Path.exists_of_extensionOfName? hext
    exact ⟨before, stem, ext, (List.append_assoc ..).symm, hstem, hext,
      List.contains_iff_mem.1 hwants⟩

/-- **The extension by which a visited file is parsed** is the one for which it is visited, unless
the name is bare. -/
theorem exists_extension?_relativePath (hl : l.extensions = sourceExtensions) :
    ∃ name ext, place.getLast? = some name ∧ Path.extensionOfName? name = some ext ∧
      IsSourceExtension ext ∧
      (Path.IsBare name ext → Path.extension? (l.relativePath place) = none) ∧
      (¬ Path.IsBare name ext → Path.extension? (l.relativePath place) = some ext) := by
  obtain ⟨before, stem, ext, heq, hstem, hname, hext⟩ := exists_sourceExtension h hroot hplace hl
  obtain ⟨tail, htail, hbare⟩ := Path.getLast?_splitAll_append hstem hext.no_backslash
  have hlast : (Text.splitAll '/' (l.relativePath place)).getLast? = some (tail ++ "." ++ ext) := by
    rw [splitAll_relativePath h hroot hplace, segments, heq, List.append_assoc, List.drop_left,
      List.flatMap_append, List.flatMap_singleton, List.getLast?_append, htail, Option.some_or]
  have hpath := Path.extension?_of_getLast? hext hlast
  refine ⟨stem ++ "." ++ ext, ext, by simp [heq], hname, hext, fun hb => ?_, fun hb => ?_⟩
  · rw [hpath, if_pos (hbare.2 hb)]
  · rw [hpath, if_neg fun hempty => hb (hbare.1 hempty)]

/-- A file that is visited can be read unless it is locked. -/
theorem exists_read_iff {path : String} {extensions : List String} {ignoring : Bool}
    {home : Option String} (hl : ofPath t path extensions ignoring home = .ok l) :
    (∃ bytes, t.read (FileTree.absolute place) = .ok bytes) ↔ place ∉ t.locked := by
  obtain ⟨bytes, hfile⟩ := exists_file_of_mem_places h hroot hplace
  have hresolve := resolve_of_mem_places h hl hplace
  unfold FileTree.read
  simp only [hresolve, bind, Except.bind, hfile]
  by_cases hlocked : place ∈ t.locked
  · simp [hlocked]
  · simp [hlocked]

end Visited

end Locator

/-! ## Reports of files without a dialect -/

/-- Only a path without a dialect makes a source unsupported. -/
theorem Source.value_parse_eq_unsupported_iff {tolerant : Bool} {path text p : String}
    {ext : Option String} :
    (parse tolerant path text).value = .error (.unsupported p ext) ↔
      dialectOf path = .error (.unsupported p ext) := by
  unfold parse
  cases hdialect : dialectOf path with
  | error e => simp
  | ok dialect =>
    -- what has a dialect is refused for a problem of the text, if at all
    simp only [parseAs, ofTree, reduceCtorEq, iff_false]
    split
    · split
      · simp
      · cases hfirst : (dialect.parse text).search.first <;> simp [refusal]
    · simp

/-- Whether it is reported of a file that its language is not supported. -/
def FileReport.IsUnsupported (report : FileReport) : Prop :=
  ∃ path ext, report.outcome = .failed .parsing (SourceError.unsupported path ext).message

/-- An error that is told in the words for an unsupported language is one. -/
theorem SourceError.exists_unsupported_of_message {e : SourceError} {p : String}
    {ext : Option String} (h : e.message = (unsupported p ext).message) :
    ∃ p' ext', e = unsupported p' ext' := by
  -- the words of the three kinds of errors begin with different letters
  have hunsupported : (unsupported p ext).message.toList.head? = some 'U' := by
    unfold message
    simp only [String.toList_append, toString, String.append_assoc, List.head?_append]
    rfl
  rw [← h] at hunsupported
  cases e with
  | unsupported p' ext' => exact ⟨p', ext', rfl⟩
  | malformed path line column problem =>
    have hletter : (malformed path line column problem).message.toList.head? = some 'P' := by
      unfold message
      simp only [String.toList_append, toString, String.append_assoc, List.head?_append]
      rfl
    cases hunsupported.symm.trans hletter
  | grammar problem =>
    have hletter : (grammar problem).message.toList.head? = some 'G' := by
      unfold message
      simp only [String.toList_append, List.head?_append]
      rfl
    cases hunsupported.symm.trans hletter

/-- A report is that of an unsupported file exactly when its error is the parser's lack of a
dialect. -/
theorem FileReport.isUnsupported_ofError {path : String} {e : IngestError} :
    (ofError path e).IsUnsupported ↔ ∃ p ext, e = .parse (.unsupported p ext) := by
  constructor
  · rintro ⟨p, ext, h⟩
    obtain ⟨hstage, hmessage⟩ := FileOutcome.failed.inj h
    cases e with
    | read _ _ => cases hstage
    | write _ _ => cases hstage
    | parse e =>
      obtain ⟨p', ext', rfl⟩ := SourceError.exists_unsupported_of_message hmessage
      exact ⟨p', ext', rfl⟩
  · rintro ⟨p, ext, rfl⟩
    exact ⟨p, ext, rfl⟩

namespace Run

variable {σ : Type} {backend : Backend σ} {around : Surroundings σ} {store : σ → Store}
  {config : RunConfig} {t : FileTree} {home : Option String} {l : Locator}
  {place : List String} {i : Nat}

/-- A file that can be read and has no dialect is reported so, and no other file is. -/
theorem Describes.isUnsupported_iff {report : FileReport} (h : Describes config t l place report) :
    report.IsUnsupported ↔ (∃ bytes, t.read (FileTree.absolute place) = .ok bytes) ∧
      ∃ p ext, Source.dialectOf (l.relativePath place) = .error (.unsupported p ext) := by
  -- a file that cannot be read is refused before its dialect is looked for
  have hinspect : ∀ p ext, inspect config t l place = .error (.parse (.unsupported p ext)) ↔
      (∃ bytes, t.read (FileTree.absolute place) = .ok bytes) ∧
        Source.dialectOf (l.relativePath place) = .error (.unsupported p ext) := by
    intro p ext
    simp only [inspect]
    cases hread : t.read (FileTree.absolute place) with
    | error e => simp
    | ok bytes =>
      rw [← Source.value_parse_eq_unsupported_iff]
      dsimp only
      cases (Source.parse config.tolerant (l.relativePath place)
        (decode (l.relativePath place) bytes).value).value with
      | error e => simp
      | ok parsed => simp
  simp only [← exists_and_left, ← hinspect]
  rw [Describes] at h
  cases hi : inspect config t l place with
  | error e =>
    rw [hi] at h
    rw [h, FileReport.isUnsupported_ofError]
    simp
  | ok given =>
    rw [hi] at h
    refine iff_of_false ?_ (by simp)
    rcases h with rfl | ⟨e, rfl⟩
    · rintro ⟨p, ext, hfailed⟩
      cases hfailed
    · rw [FileReport.isUnsupported_ofError]
      simp

/-- **Which visited files are not supported.** Let the extensions be those of the default. A file
that is visited has the extension of a dialect. Its path has this dialect, unless the name of the
file is bare, and then the path has no extension and so no dialect. In every run the file is
reported as not supported exactly if its name is bare and the file is not locked. -/
theorem unsupported_iff_bare (h : t.root.Proper) (hdefault : config.extensions = sourceExtensions)
    (hl : locator? config t home = some l) (hb : backend.Holds store)
    (ha : around.Still store t home) (hplace : (l.files t).value[i]? = some place) :
    ∃ name ext dialect, place.getLast? = some name ∧ Path.extensionOfName? name = some ext ∧
      Dialect.ofExtension? ext = some dialect ∧
      (Source.dialectOf (l.relativePath place) = .ok dialect ↔ ¬ Path.IsBare name ext) ∧
      (Source.dialectOf (l.relativePath place) = .error (.unsupported (l.relativePath place) none) ↔
        Path.IsBare name ext) ∧
      ∀ elapsed s summary report, (run config backend around elapsed s).value.1 = .ok summary →
        summary.reports[i]? = some report →
        (report.IsUnsupported ↔ Path.IsBare name ext ∧ place ∉ t.locked) := by
  obtain ⟨children, hroot⟩ := Locator.at?_root_of_ofPath (locator?_eq_some_iff.1 hl)
  have hmem : place ∈ l.places t := by
    rw [← Locator.value_files]
    exact List.mem_of_getElem? hplace
  have hextensions : l.extensions = sourceExtensions := by
    obtain ⟨-, -, heq⟩ := Locator.ofPath_eq_ok_iff.1 (locator?_eq_some_iff.1 hl)
    rw [congrArg Locator.extensions heq, hdefault]
    exact Locator.normalExtension_sourceExtensions
  obtain ⟨name, ext, hlast, hname, hext, hbare, hplain⟩ :=
    Locator.exists_extension?_relativePath h hroot hmem hextensions
  obtain ⟨dialect, hdialect⟩ := hext.exists_dialect
  -- a bare name has no extension in the path, and any other name has its own
  have hrefused : Path.IsBare name ext → Source.dialectOf (l.relativePath place)
      = .error (.unsupported (l.relativePath place) none) := by
    intro hn
    simp [Source.dialectOf, Dialect.ofPath?, hbare hn]
  have hknown : ¬ Path.IsBare name ext →
      Source.dialectOf (l.relativePath place) = .ok dialect := by
    intro hn
    simp [Source.dialectOf, Dialect.ofPath?, hplain hn, hdialect]
  refine ⟨name, ext, dialect, hlast, hname, hdialect, ⟨?_, hknown⟩, ⟨?_, hrefused⟩, ?_⟩
  · intro hok hn
    cases hok.symm.trans (hrefused hn)
  · intro herror
    by_contra hn
    cases herror.symm.trans (hknown hn)
  · intro elapsed s summary report hok hreport
    obtain ⟨l', visited, rest, hl', houtcome⟩ := exists_outcome hb ha hok
    obtain rfl : l = l' := Option.some.inj (hl.symm.trans hl')
    rw [(houtcome.describes hplace hreport).isUnsupported_iff,
      Locator.exists_read_iff h hroot hmem (locator?_eq_some_iff.1 hl), and_comm]
    refine and_congr_left fun _ => ⟨?_, fun hn => ⟨_, _, hrefused hn⟩⟩
    rintro ⟨p, x, herror⟩
    by_contra hn
    cases herror.symm.trans (hknown hn)

/-! ## A name that is bare -/

/-- A repository with a file whose name is bare, and one whose extension has upper case. -/
def bareSample : FileTree :=
  { root := .dir [("repo", .dir [("B.Py", .file "".toUTF8), ("a\\.py", .file "".toUTF8)])] }

/-- How it is ingested: with the extensions of the default. -/
def bareConfig : RunConfig := { root := "/repo", ignoring := false }

/-- How it is walked. -/
def bareWalk : Locator := { root := ["repo"], extensions := sourceExtensions, ignoring := false }

/-- The sample is walked from its root. -/
theorem locator_bareSample : locator? bareConfig bareSample none = some bareWalk := by
  cbv

/-- The sample has proper names, each only once in its directory. -/
theorem proper_bareSample : bareSample.root.Proper := by
  have hname : ∀ name ∈ ["repo", "B.Py", "a\\.py"], ProperName name := by decide
  exact ⟨by decide, hname _ (by simp), ⟨by decide, hname _ (by simp), trivial, hname _ (by simp),
    trivial, trivial⟩, trivial⟩

/-- The walk of the sample finds both files, that with the bare name last. -/
theorem files_bareSample :
    (bareWalk.files bareSample).value = [["repo", "B.Py"], ["repo", "a\\.py"]] := by
  rw [Locator.value_files]
  cbv

/-- A run that reports the file with the bare name as not supported, and not the other. -/
theorem unsupported_iff_bare_sample :
    ∃ summary first second,
      (run bareConfig (.refusing fun _ => false) (.stopping bareSample none 2) 0
        (0, .empty)).value.1 = .ok summary ∧
      summary.reports = [first, second] ∧ ¬ first.IsUnsupported ∧ second.IsUnsupported := by
  obtain ⟨summary, hok, hreports, -⟩ := run_interrupted locator_bareSample 0 .empty
  rw [files_bareSample] at hreports
  have hfirst : (bareWalk.files bareSample).value[0]? = some ["repo", "B.Py"] := by
    rw [files_bareSample]
    rfl
  have hsecond : (bareWalk.files bareSample).value[1]? = some ["repo", "a\\.py"] := by
    rw [files_bareSample]
    rfl
  have hb := Backend.holds_refusing fun _ => false
  have ha := Surroundings.still_stopping bareSample none 2
  obtain ⟨name, ext, -, hname, hext, -, -, -, hall⟩ :=
    unsupported_iff_bare proper_bareSample rfl locator_bareSample hb ha hfirst
  obtain ⟨name', ext', -, hname', hext', -, -, -, hall'⟩ :=
    unsupported_iff_bare proper_bareSample rfl locator_bareSample hb ha hsecond
  have hupper : Path.extensionOfName? "B.Py" = some "Py" := by cbv
  have hlower : Path.extensionOfName? "a\\.py" = some "py" := by cbv
  obtain rfl : "B.Py" = name := Option.some.inj hname
  obtain rfl : "a\\.py" = name' := Option.some.inj hname'
  obtain rfl : "Py" = ext := Option.some.inj (hupper.symm.trans hext)
  obtain rfl : "py" = ext' := Option.some.inj (hlower.symm.trans hext')
  refine ⟨summary, _, _, hok, hreports, ?_, ?_⟩
  · rw [hall 0 (0, .empty) summary _ hok (by rw [hreports]; rfl)]
    rintro ⟨⟨before, hbefore⟩, -⟩
    have hbackslash : '\\' ∈ "B.Py".toList := by simp [hbefore]
    simp at hbackslash
  · rw [hall' 0 (0, .empty) summary _ hok (by rw [hreports]; rfl)]
    exact ⟨⟨"a", rfl⟩, by simp [bareSample]⟩

/-- A file that is visited for its extension and whose path has no dialect. -/
theorem visited_file_without_dialect :
    ["repo", "a\\.py"] ∈ (bareWalk.files bareSample).value ∧
      Path.extensionOfName? "a\\.py" = some "py" ∧ Dialect.ofExtension? "py" = some .python ∧
      Source.dialectOf (bareWalk.relativePath ["repo", "a\\.py"])
        = .error (.unsupported "a/.py" none) := by
  rw [files_bareSample]
  refine ⟨by simp, ?_, ?_, ?_⟩
  · cbv
  · cbv
  · cbv

end Run

end CodeGraph
