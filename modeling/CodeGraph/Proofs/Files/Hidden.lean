import CodeGraph.Proofs.Files.Below
import Mathlib

/-! # Hidden files

A walk decides entry by entry what to leave out, with the rules that it has collected on the way.
These are the rules of the directory, of all directories around it and of the user
(`Locator.rulesIn`), whichever way the walk came there (`enter_outerRules`, `enter_rulesIn`), and so
the decision depends on the entry alone (`Locator.Admits`). A walk visits the files that it wants
and on whose way every entry is let through, and no others (`mem_places_iff`).

Ignore rules come before the rule that hidden entries are left out. A hidden entry is let through
exactly where they take it back in. -/

namespace CodeGraph

/-! ## Heights -/

namespace Entry

/-- An entry is no higher than the entries that it is one of. -/
theorem height_le_heightOfAll {children : List (String × Entry)} {name : String} {e : Entry}
    (h : (name, e) ∈ children) : e.height ≤ heightOfAll children := by
  induction children with
  | nil => cases h
  | cons c rest ih =>
    rw [heightOfAll]
    rcases List.mem_cons.1 h with rfl | h
    · exact Nat.le_max_left _ _
    · exact Nat.le_trans (ih h) (Nat.le_max_right _ _)

/-- A way in an entry is no longer than the entry is high. -/
theorem length_add_height_le {e e' : Entry} {way : List String} (h : e.at? way = some e') :
    way.length + e'.height ≤ e.height := by
  induction way generalizing e with
  | nil =>
    cases h
    simp
  | cons name rest ih =>
    obtain ⟨c, hc, hrest⟩ := Option.bind_eq_some_iff.1 h
    cases e with
    | dir children =>
      have hchild := height_le_heightOfAll (mem_of_lookup hc)
      have hbelow := ih hrest
      rw [height, List.length_cons]
      omega
    | _ => cases hc

end Entry

/-! ## Files in trees without links -/

/-- Where there are no links, the path of a place leads to what is there. -/
theorem FileTree.read_absolute_iff {t : FileTree} (h : t.root.Plain) {place : List String}
    (hne : place ≠ []) (hnames : ∀ name ∈ place, ProperName name) (bytes : ByteArray) :
    t.read (absolute place) = .ok bytes ↔
      t.root.at? place = some (.file bytes) ∧ place ∉ t.locked := by
  -- where there are no links a path leads to its own place or nowhere
  have hresolve : ∀ p, t.resolve (absolute place) = .ok p ↔
      p = place ∧ (t.root.at? place).isSome := by
    intro p
    have hempty : (absolute place).isEmpty = false := by simp [absolute]
    have hisAbsolute : isAbsolute (absolute place) := by simp [isAbsolute, absolute]
    rw [resolve_eq_ok_iff hempty (endsInDirectory_absolute hnames hne), base, if_pos hisAbsolute,
      names_absolute hnames,
      walk_eq_ok_iff rfl h (fun name hname => (hnames name hname).ne_dots), List.nil_append]
    constructor
    · exact And.left
    · rintro ⟨rfl, hsome⟩
      exact ⟨⟨rfl, hsome⟩, hsome⟩
  rw [read]
  cases hat : t.root.at? place with
  | none =>
    cases hp : t.resolve (absolute place) with
    | error e => simp [bind, Except.bind]
    | ok p =>
      have hsome := ((hresolve p).1 hp).2
      rw [hat] at hsome
      cases hsome
  | some e =>
    rw [(hresolve place).2 ⟨rfl, hat ▸ rfl⟩]
    simp only [bind, Except.bind, hat]
    cases e with
    | file contents =>
      by_cases hlocked : place ∈ t.locked <;> simp [hlocked]
    | dir children => simp
    | link target => simp

/-- Of the rules of an ignore file the last one decides, which comes first in it. -/
theorem IgnoreFile.verdict_of_isAbout {f : IgnoreFile} {r : IgnoreRule} {rules : List IgnoreRule}
    {place : List String} {isDir : Bool} (hrules : f.rules = r :: rules)
    (habout : r.isAbout (f.pathFrom place).toUTF8.toList isDir) :
    f.verdict place isDir = if r.keeps then .kept else .ignored := by
  have hfind : (r :: rules).find? (·.isAbout (f.pathFrom place).toUTF8.toList isDir) = some r :=
    List.find?_cons_of_pos habout
  rw [verdict, hrules]
  simp only [hfind]
  rfl

namespace DirRules

variable {t : FileTree} {dir path : List String}

/-- `load` of an ignore file that is there and may be read takes its rules from its bytes. -/
theorem load_of_file (h : t.root.Plain) (hne : dir ++ path ≠ [])
    (hnames : ∀ name ∈ dir ++ path, ProperName name) {bytes : ByteArray}
    (hat : t.root.at? (dir ++ path) = some (.file bytes)) (hlocked : dir ++ path ∉ t.locked) :
    load t dir path = IgnoreFile.ofBytes dir bytes := by
  rw [load, (FileTree.read_absolute_iff h hne hnames bytes).2 ⟨hat, hlocked⟩]

/-- `load` of an ignore file that is not there gives no rules. -/
theorem load_of_none (h : t.root.Plain) (hne : dir ++ path ≠ [])
    (hnames : ∀ name ∈ dir ++ path, ProperName name) (hat : t.root.at? (dir ++ path) = none) :
    load t dir path = { place := dir } := by
  rw [load]
  cases hread : t.read (FileTree.absolute (dir ++ path)) with
  | error e => rfl
  | ok bytes =>
    rw [FileTree.read_absolute_iff h hne hnames, hat] at hread
    cases hread.1

end DirRules

namespace Locator

variable {l : Locator} {t : FileTree}

/-! ## Rules in force -/

/-- A directory and those around it, the innermost first. -/
def outward (dir : List String) : List (List String) :=
  (List.range (dir.length + 1)).reverse.map fun n => dir.take n

/-- Outward from the root of a walk are the root itself and what is above it. -/
theorem outward_root (l : Locator) : outward l.root = l.root :: l.above := by
  rw [outward, List.range_succ, List.reverse_concat, List.map_cons, List.take_length]
  rfl

/-- Outward from a directory are the directory itself and what is outward from its parent. -/
theorem outward_concat (dir : List String) (name : String) :
    outward (dir ++ [name]) = (dir ++ [name]) :: outward dir := by
  -- the directories around are the same ones, seen from one step further
  have haround : ∀ n ∈ (List.range (dir.length + 1)).reverse,
      (dir ++ [name]).take n = dir.take n := by
    intro n hn
    rw [List.mem_reverse, List.mem_range] at hn
    exact List.take_append_of_le_length (by omega)
  rw [outward, List.length_append, List.length_singleton, List.range_succ, List.reverse_concat,
    List.map_cons, List.map_congr_left haround, List.take_of_length_le (by simp)]
  rfl

/-- The ignore rules in force inside a directory. -/
def rulesIn (l : Locator) (t : FileTree) (dir : List String) : IgnoreRules :=
  if l.ignoring then
    { dirs := (outward dir).map (DirRules.ofDir t), user := UserIgnore.load t l.home }
  else {}

/-- A walk begins with the rules in force in the root. -/
theorem enter_outerRules (l : Locator) (t : FileTree) :
    l.enter t (l.outerRules t) l.root = l.rulesIn t l.root := by
  rw [enter, outerRules, rulesIn, outward_root]
  split <;> rfl

/-- A walk that enters a directory goes on with the rules in force there. -/
theorem enter_rulesIn (l : Locator) (t : FileTree) (dir : List String) (name : String) :
    l.enter t (l.rulesIn t dir) (dir ++ [name]) = l.rulesIn t (dir ++ [name]) := by
  rw [enter, rulesIn, rulesIn, outward_concat]
  split <;> rfl

/-! ## Entries that are let through -/

/-- What the rules in force say of an entry. -/
def verdictOn (l : Locator) (t : FileTree) (dir : List String) (name : String) (isDir : Bool) :
    Verdict :=
  (l.rulesIn t dir).verdict (dir ++ [name]) isDir

/-- **Whether an entry is let through**: the rules in force take it back in, or they say nothing of
it and it is not hidden. -/
def Admits (l : Locator) (t : FileTree) (dir : List String) (name : String) (isDir : Bool) : Prop :=
  l.verdictOn t dir name isDir = .kept ∨
    l.verdictOn t dir name isDir = .silent ∧ isHidden name = false

/-- **What is not skipped is admitted**: `skips` under the rules in force decides `Admits`. -/
theorem skips_rulesIn_eq_false_iff {dir : List String} {name : String} {isDir : Bool} :
    l.skips (l.rulesIn t dir) (dir ++ [name]) name isDir = false ↔ l.Admits t dir name isDir := by
  have hverdict : (if l.ignoring then (l.rulesIn t dir).verdict (dir ++ [name]) isDir else .silent)
      = l.verdictOn t dir name isDir := by
    rw [verdictOn, rulesIn]
    split <;> rfl
  rw [skips, hverdict, Admits]
  cases l.verdictOn t dir name isDir <;> simp

/-- Where ignore files do not count, nothing is said of an entry. -/
theorem verdictOn_of_not_ignoring (h : l.ignoring = false) (dir : List String) (name : String)
    (isDir : Bool) : l.verdictOn t dir name isDir = .silent := by
  rw [verdictOn, rulesIn, h]
  rfl

/-- A hidden entry that is let through is taken back in, and ignore files count. -/
theorem Admits.kept_of_hidden {dir : List String} {name : String} {isDir : Bool}
    (h : l.Admits t dir name isDir) (hhidden : isHidden name) :
    l.ignoring ∧ l.verdictOn t dir name isDir = .kept := by
  rcases h with hverdict | ⟨-, hshown⟩
  · refine ⟨?_, hverdict⟩
    by_contra hoff
    rw [verdictOn_of_not_ignoring (Bool.eq_false_iff.2 hoff)] at hverdict
    cases hverdict
  · rw [hshown] at hhidden
    cases hhidden

/-- Whether all entries on a way are let through that leads on from a directory. -/
def AdmitsWay (l : Locator) (t : FileTree) (dir : List String) : List String → Prop
  | [] => True
  | name :: rest => l.Admits t dir name (!rest.isEmpty) ∧ AdmitsWay l t (dir ++ [name]) rest

/-- A way is admitted exactly when each of its entries is, in the directory that the way before it
leads to. -/
theorem admitsWay_iff {dir way : List String} :
    l.AdmitsWay t dir way ↔ ∀ before name after, way = before ++ name :: after →
      l.Admits t (dir ++ before) name (!after.isEmpty) := by
  induction way generalizing dir with
  | nil => simp [AdmitsWay]
  | cons first rest ih =>
    rw [AdmitsWay, ih]
    constructor
    · rintro ⟨hfirst, hrest⟩ before name after heq
      cases before with
      | nil =>
        obtain ⟨rfl, rfl⟩ := List.cons.inj heq
        rw [List.append_nil]
        exact hfirst
      | cons b before =>
        obtain ⟨rfl, rfl⟩ := List.cons.inj heq
        rw [List.append_cons]
        exact hrest before name after rfl
    · intro h
      refine ⟨?_, fun before name after heq => ?_⟩
      · have hfirst := h [] first rest rfl
        rwa [List.append_nil] at hfirst
      · have hrest := h (first :: before) name after (congrArg (first :: ·) heq)
        rwa [List.append_cons] at hrest

/-! ## Files that are visited -/

/-- Whether the last name of a way is one that a walk looks for. -/
def WantsLast (l : Locator) (way : List String) : Prop :=
  ∃ name, way.getLast? = some name ∧ l.wants name

@[simp] theorem wantsLast_singleton {name : String} : l.WantsLast [name] ↔ l.wants name := by
  simp [WantsLast]

@[simp] theorem wantsLast_cons_cons {name next : String} {rest : List String} :
    l.WantsLast (name :: next :: rest) ↔ l.WantsLast (next :: rest) := by
  simp [WantsLast]

section Proper

variable (h : t.root.Proper)
include h

/-- **One level of a walk**: the files that are visited below a directory are those that are wanted
and on whose way all entries are let through. -/
theorem mem_placesBelow_iff {place : List String} (depth : Nat) {rules : IgnoreRules}
    {dir : List String} {children : List (String × Entry)}
    (hdir : t.root.at? dir = some (.dir children))
    (hrules : l.enter t rules dir = l.rulesIn t dir) :
    place ∈ placesBelow l t depth rules dir ↔
      ∃ way bytes, place = dir ++ way ∧ way ≠ [] ∧ way.length ≤ depth ∧
        (Entry.dir children).at? way = some (.file bytes) ∧ l.WantsLast way ∧
        l.AdmitsWay t dir way := by
  induction depth generalizing rules dir children with
  | zero => simp [placesBelow]
  | succ depth ih =>
    have hbelow : ∀ {name inner}, children.lookup name = some (.dir inner) →
        t.root.at? (dir ++ [name]) = some (.dir inner) := by
      intro name inner hname
      rw [Entry.at?_concat hdir, hname]
    rw [placesBelow, FileTree.entry_absolute h hdir]
    simp only [hrules, mem_placesIn_iff, skips_rulesIn_eq_false_iff]
    constructor
    · rintro ⟨name, e, hmem, hadmits, hvisit⟩
      have hname : children.lookup name = some e :=
        Entry.lookup_of_mem (h.of_at? hdir).1.1 (List.mem_mergeSort.1 hmem)
      rcases hvisit with ⟨bytes, rfl, hwants, rfl⟩ | ⟨inner, rfl, hvisit⟩
      · refine ⟨[name], bytes, rfl, by simp, by simp, ?_, wantsLast_singleton.2 hwants, hadmits,
          trivial⟩
        rw [Entry.at?, Entry.child?, hname]
        rfl
      · obtain ⟨way, bytes, rfl, hne, hlength, hat, hwants, hway⟩ :=
          (ih (hbelow hname) (enter_rulesIn l t dir name)).1 hvisit
        obtain ⟨next, rest, rfl⟩ := List.exists_cons_of_ne_nil hne
        refine ⟨name :: next :: rest, bytes, by simp, by simp, Nat.succ_le_succ hlength, ?_,
          wantsLast_cons_cons.2 hwants, hadmits, hway⟩
        rw [Entry.at?, Entry.child?, hname]
        exact hat
    · rintro ⟨way, bytes, rfl, hne, hlength, hat, hwants, hway⟩
      obtain ⟨name, rest, rfl⟩ := List.exists_cons_of_ne_nil hne
      obtain ⟨e, hname, hrest⟩ := Option.bind_eq_some_iff.1 hat
      have hmem : (name, e) ∈ sorted children := List.mem_mergeSort.2 (Entry.mem_of_lookup hname)
      refine ⟨name, e, hmem, ?_⟩
      cases rest with
      | nil =>
        cases hrest
        exact ⟨hway.1, .inl ⟨bytes, rfl, wantsLast_singleton.1 hwants, rfl⟩⟩
      | cons next rest =>
        -- there is more on the way, so that the entry is a directory
        cases e with
        | file bytes => cases hrest
        | link target => cases hrest
        | dir inner =>
          refine ⟨hway.1, .inr ⟨inner, rfl, ?_⟩⟩
          refine (ih (hbelow hname) (enter_rulesIn l t dir name)).2
            ⟨next :: rest, bytes, by simp, by simp, Nat.le_of_succ_le_succ hlength, hrest,
              wantsLast_cons_cons.1 hwants, hway.2⟩

/-- **What a walk visits**: the files below the root that are wanted and on whose way all entries
are let through. -/
theorem mem_places_iff {place : List String} {children : List (String × Entry)}
    (hroot : t.root.at? l.root = some (.dir children)) :
    place ∈ l.places t ↔ ∃ way bytes, place = l.root ++ way ∧ way ≠ [] ∧
      t.root.at? place = some (.file bytes) ∧ l.WantsLast way ∧ l.AdmitsWay t l.root way := by
  have hat : ∀ way, t.root.at? (l.root ++ way) = (Entry.dir children).at? way := by
    intro way
    rw [Entry.at?_append, hroot, Option.bind_some]
  rw [places, mem_placesBelow_iff h _ hroot (enter_outerRules l t)]
  constructor
  · rintro ⟨way, bytes, rfl, hne, -, hfile, hwants, hway⟩
    exact ⟨way, bytes, rfl, hne, (hat way).trans hfile, hwants, hway⟩
  · rintro ⟨way, bytes, rfl, hne, hfile, hwants, hway⟩
    have hlength := Entry.length_add_height_le hfile
    rw [List.length_append] at hlength
    exact ⟨way, bytes, rfl, hne, by omega, (hat way).symm.trans hfile, hwants, hway⟩

end Proper

/-! ## A hidden file that is taken back in -/

/-- A repository with one ignore file and one hidden file. -/
def hiddenSample : FileTree :=
  { root := .dir [("repo", .dir
      [(".gitignore", .file "!.a.py\n".toUTF8), (".a.py", .file .empty)])] }

/-- The walk through the sample. -/
def hiddenWalk : Locator := { root := ["repo"], extensions := ["py"] }

/-- The sample is walked from `/repo`. -/
theorem ofPath_hiddenSample : ofPath hiddenSample "/repo" ["py"] true none = .ok hiddenWalk := by
  cbv

/-- The sample has proper names, each only once in its directory. -/
theorem proper_hiddenSample : hiddenSample.root.Proper := by
  have hname : ∀ name ∈ ["repo", ".gitignore", ".a.py"], ProperName name := by decide
  exact ⟨by decide, hname _ (by simp), ⟨by decide, hname _ (by simp), trivial, hname _ (by simp),
    trivial, trivial⟩, trivial⟩

/-- There is no link in the sample. -/
theorem plain_hiddenSample : hiddenSample.root.Plain := by
  refine Entry.plain_dir (List.forall_mem_singleton.2 ⟨by decide, Entry.plain_dir ?_⟩)
  exact List.forall_mem_cons.2 ⟨⟨by decide, Entry.plain_file _⟩,
    List.forall_mem_singleton.2 ⟨by decide, Entry.plain_file _⟩⟩

/-- The line of the ignore file takes the hidden file back in. -/
theorem ofLine_hiddenSample : ∃ glob, IgnoreRule.ofLine "!.a.py" = .ok (some ⟨glob, true, false⟩) ∧
    glob.matchesBytes ".a.py".toUTF8.toList := by
  refine ⟨⟨.anyDepthFirst :: ".a.py".toList.map .literal⟩, ?_, ?_⟩
  · have hstars : ∀ rest, Glob.Reading.stars {} ('/' :: rest)
        = (Glob.Reading.push {} .anyDepthFirst '/', rest) := fun rest => rfl
    have hparse : Glob.parse "**/.a.py" = .ok ⟨.anyDepthFirst :: ".a.py".toList.map .literal⟩ := by
      simp [Glob.parse, Glob.readFrom, Glob.Reading.push, hstars, bind, Except.bind]
    have hcomment : "!.a.py".startsWith "#" = false := by decide +kernel
    have htrimmed : IgnoreRule.trimmed "!.a.py" = "!.a.py" := by decide +kernel
    have hmarks : IgnoreRule.takeMarks "!.a.py".toList = (true, false, ".a.py".toList) := by
      decide +kernel
    have hend : IgnoreRule.takeEnd ".a.py".toList = (false, ".a.py".toList) := by decide +kernel
    have hpattern : String.ofList (IgnoreRule.patternText ".a.py".toList false) = "**/.a.py" := by
      decide +kernel
    rw [IgnoreRule.ofLine, hcomment, htrimmed]
    simp only [hmarks, hend, hpattern, hparse]
    rfl
  · rw [Glob.matchesBytes, Bool.or_eq_true]
    right
    cbv

/-- The rule of the sample takes the hidden file back in. -/
theorem verdict_hiddenSample :
    (IgnoreFile.ofBytes ["repo"] "!.a.py\n".toUTF8).verdict ["repo", ".a.py"] false = .kept := by
  obtain ⟨glob, hline, hmatches⟩ := ofLine_hiddenSample
  have hlines : IgnoreFile.splitLines "!.a.py\n".toUTF8.toList = ["!.a.py".toUTF8.toList] := by
    decide +kernel
  have htext : String.fromUTF8? ⟨"!.a.py".toUTF8.toList.toArray⟩ = some "!.a.py" := by
    decide +kernel
  have hmark : Text.trimStartWhere (· == '\uFEFF') "!.a.py" = "!.a.py" := by decide +kernel
  rw [IgnoreFile.ofBytes, hlines, IgnoreFile.addLines, htext]
  simp only [beq_self_eq_true, if_true, hmark, hline, IgnoreFile.addLines]
  have hpath : "/".intercalate [".a.py"] = ".a.py" := String.intercalate_singleton
  have habout : IgnoreRule.isAbout ⟨glob, true, false⟩ ("/".intercalate [".a.py"]).toUTF8.toList
      false := by
    rw [hpath]
    exact hmatches
  exact IgnoreFile.verdict_of_isAbout (r := ⟨glob, true, false⟩) rfl habout

/-- The rules in force in the sample take the hidden file back in. -/
theorem verdictOn_hiddenSample :
    hiddenWalk.verdictOn hiddenSample ["repo"] ".a.py" false = .kept := by
  have hrepo : DirRules.ofDir hiddenSample ["repo"]
      = { own := { place := ["repo"] }
          git := IgnoreFile.ofBytes ["repo"] "!.a.py\n".toUTF8
          excluded := { place := ["repo"] } } := by
    rw [DirRules.ofDir, DirRules.load_of_none plain_hiddenSample (by simp) (by decide) rfl,
      DirRules.load_of_file plain_hiddenSample (by simp) (by decide) rfl (by decide),
      DirRules.load_of_none plain_hiddenSample (by simp) (by decide) rfl]
  have hroot : DirRules.ofDir hiddenSample []
      = { own := { place := [] }, git := { place := [] }, excluded := { place := [] } } := by
    rw [DirRules.ofDir, DirRules.load_of_none plain_hiddenSample (by simp) (by decide) rfl,
      DirRules.load_of_none plain_hiddenSample (by simp) (by decide) rfl,
      DirRules.load_of_none plain_hiddenSample (by simp) (by decide) rfl]
  have hrules : hiddenWalk.rulesIn hiddenSample ["repo"]
      = { dirs := [DirRules.ofDir hiddenSample ["repo"], DirRules.ofDir hiddenSample []] } := rfl
  have hsilent : ∀ place place' isDir, IgnoreFile.verdict { place } place' isDir = .silent :=
    fun _ _ _ => rfl
  have hkept := verdict_hiddenSample
  rw [verdictOn, hrules, hrepo, hroot]
  generalize IgnoreFile.ofBytes ["repo"] "!.a.py\n".toUTF8 = file at hkept ⊢
  simp [IgnoreRules.verdict, IgnoreRules.firstVerdict, hsilent, hkept, Verdict.or]

/-! ## Hidden files -/

/-- **Hidden files are visited exactly where ignore rules take them back in.** A walk visits the
files below its root that it looks for and on whose way every entry is let through: the ignore rules
in force take the entry back in, or they say nothing of it and it is not hidden. So a hidden entry
on the way to a visited file is one that they take back in. Where ignore files do not count, nothing
hidden is visited; and where they do, nothing hidden is visited exactly if no hidden entry is taken
back in on the way to a file that is looked for and let through. -/
theorem hidden_visited_where_kept (h : t.root.Proper) {path : String} {extensions : List String}
    {ignoring : Bool} {home : Option String}
    (hl : ofPath t path extensions ignoring home = .ok l) :
    let shown := ∀ place ∈ (l.files t).value, ∀ name ∈ place.drop l.root.length,
      isHidden name = false
    (∀ place, place ∈ (l.files t).value ↔ ∃ way bytes, place = l.root ++ way ∧ way ≠ [] ∧
      t.root.at? place = some (.file bytes) ∧ l.WantsLast way ∧
      ∀ before name after, way = before ++ name :: after →
        l.Admits t (l.root ++ before) name (!after.isEmpty)) ∧
    (∀ place ∈ (l.files t).value, ∀ before name after,
      place = l.root ++ (before ++ name :: after) → isHidden name →
        l.ignoring ∧ l.verdictOn t (l.root ++ before) name (!after.isEmpty) = .kept) ∧
    (l.ignoring = false → shown) ∧
    (shown ↔ ∀ way bytes, way ≠ [] → t.root.at? (l.root ++ way) = some (.file bytes) →
      l.WantsLast way → (∀ before name after, way = before ++ name :: after →
        l.Admits t (l.root ++ before) name (!after.isEmpty)) →
      ∀ before name after, way = before ++ name :: after →
        l.verdictOn t (l.root ++ before) name (!after.isEmpty) = .kept →
        isHidden name = false) := by
  obtain ⟨children, hroot⟩ := at?_root_of_ofPath hl
  intro shown
  have hvisited := fun place => (mem_places_iff h hroot : place ∈ l.places t ↔ _)
  simp only [admitsWay_iff] at hvisited
  have hkept : ∀ place ∈ l.places t, ∀ before name after,
      place = l.root ++ (before ++ name :: after) → isHidden name →
        l.ignoring ∧ l.verdictOn t (l.root ++ before) name (!after.isEmpty) = .kept := by
    intro place hplace before name after hway hhidden
    obtain ⟨way, bytes, rfl, -, -, -, hadmits⟩ := (hvisited place).1 hplace
    exact (hadmits before name after (List.append_cancel_left hway)).kept_of_hidden hhidden
  -- a hidden name on the way to a visited file splits the way, and is one that is taken back in
  have hsplit : ∀ place ∈ l.places t, ∀ name ∈ place.drop l.root.length, isHidden name →
      ∃ before after, place = l.root ++ (before ++ name :: after) ∧ l.ignoring ∧
        l.verdictOn t (l.root ++ before) name (!after.isEmpty) = .kept := by
    intro place hplace name hname hhidden
    obtain ⟨way, bytes, rfl, -⟩ := (hvisited place).1 hplace
    rw [List.drop_left] at hname
    obtain ⟨before, after, rfl⟩ := List.append_of_mem hname
    exact ⟨before, after, rfl, hkept _ hplace before name after rfl hhidden⟩
  simp only [shown, value_files]
  refine ⟨hvisited, hkept, fun hoff place hplace name hname => ?_, fun hshown => ?_,
    fun hnever place hplace name hname => ?_⟩
  · by_contra hhidden
    obtain ⟨-, -, -, hon, -⟩ :=
      hsplit place hplace name hname (Bool.eq_true_of_not_eq_false hhidden)
    rw [hoff] at hon
    cases hon
  · intro way bytes hne hat hwants hadmits before name after hway _
    have hplace : l.root ++ way ∈ l.places t :=
      (hvisited _).2 ⟨way, bytes, rfl, hne, hat, hwants, hadmits⟩
    exact hshown _ hplace name (by simp [hway])
  · by_contra hhidden
    obtain ⟨before, after, rfl, -, hverdict⟩ :=
      hsplit place hplace name hname (Bool.eq_true_of_not_eq_false hhidden)
    obtain ⟨way, bytes, hway, hne, hat, hwants, hadmits⟩ := (hvisited _).1 hplace
    rw [← List.append_cancel_left hway] at hne hwants hadmits
    exact hhidden (hnever _ bytes hne hat hwants hadmits before name after rfl hverdict)

/-- A hidden file that an ignore file takes back in, and that is visited. -/
theorem hidden_visited_where_kept_sample :
    hiddenSample.root.Proper ∧ ofPath hiddenSample "/repo" ["py"] true none = .ok hiddenWalk ∧
      ["repo", ".a.py"] ∈ (hiddenWalk.files hiddenSample).value ∧ isHidden ".a.py" ∧
      hiddenWalk.verdictOn hiddenSample ["repo"] ".a.py" false = .kept := by
  obtain ⟨hvisited, hkept, -, -⟩ :=
    hidden_visited_where_kept proper_hiddenSample ofPath_hiddenSample
  have hfile : ["repo", ".a.py"] ∈ (hiddenWalk.files hiddenSample).value := by
    refine (hvisited _).2 ⟨[".a.py"], .empty, rfl, by simp, rfl,
      wantsLast_singleton.2 (by decide +kernel), ?_⟩
    exact admitsWay_iff.1 ⟨.inl verdictOn_hiddenSample, trivial⟩
  have hhidden : isHidden ".a.py" := by decide +kernel
  exact ⟨proper_hiddenSample, ofPath_hiddenSample, hfile, hhidden,
    (hkept _ hfile [] ".a.py" [] rfl hhidden).2⟩

/-- **A walk can visit a hidden file**: here an ignore file takes it back in. -/
theorem hidden_file_visited :
    ofPath hiddenSample "/repo" ["py"] true none = .ok hiddenWalk ∧
      ¬ ∀ place ∈ (hiddenWalk.files hiddenSample).value,
        ∀ name ∈ place.drop hiddenWalk.root.length, isHidden name = false := by
  refine ⟨ofPath_hiddenSample, fun hshown => ?_⟩
  have hvisited : ["repo", ".a.py"] ∈ (hiddenWalk.files hiddenSample).value := by
    rw [value_files, mem_places_iff proper_hiddenSample rfl]
    exact ⟨[".a.py"], .empty, rfl, by simp, rfl, wantsLast_singleton.2 (by decide +kernel),
      .inl verdictOn_hiddenSample, trivial⟩
  have hhidden : isHidden ".a.py" = true := by decide +kernel
  exact Bool.false_ne_true ((hshown _ hvisited ".a.py" (by decide)).symm.trans hhidden)

end Locator

end CodeGraph
