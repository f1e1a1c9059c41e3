import CodeGraph.Proofs.Files.Places
import CodeGraph.Run.Pipeline

/-! # Paths below a directory

Names that are joined by slashes are a path below a directory. If there are no links in the
directory (`Entry.Plain`) then such a path leads to what the names reach, and nowhere else
(`FileTree.resolve_below_iff`). In the directory itself, the names alone are a path to the same file
(`FileTree.resolve_relative`).

`Locator.Denotes` says that a path is of this form and leads to a file. The path by which a walk
knows a place denotes that place (`Locator.denotes_relativePath`), and no other path does
(`Locator.Denotes.path_unique`). -/

namespace CodeGraph

/-! ## Joined names -/

/-- Names that make up a path below a directory. -/
structure ProperNames (ns : List String) : Prop where
  ne_nil : ns ≠ []
  proper : ∀ name ∈ ns, ProperName name

/-- Proper names joined by slashes are split into the same names. -/
theorem ProperNames.splitAll {ns : List String} (h : ProperNames ns) :
    Text.splitAll '/' ("/".intercalate ns) = ns :=
  splitAll_intercalate h.proper h.ne_nil

/-- Proper names joined by slashes are the names of that path. -/
theorem ProperNames.names {ns : List String} (h : ProperNames ns) :
    FileTree.names ("/".intercalate ns) = ns := by
  rw [FileTree.names, h.splitAll, List.filter_eq_self]
  intro name hname
  simp [(h.proper name hname).ne_empty, (h.proper name hname).ne_dot]

/-- Joined names are not empty, and do not begin at the root. -/
theorem ProperNames.exists_toList {ns : List String} (h : ProperNames ns) :
    ∃ c cs, ("/".intercalate ns).toList = c :: cs ∧ c ≠ '/' := by
  obtain ⟨n, rest, rfl⟩ := List.exists_cons_of_ne_nil h.ne_nil
  have hn := h.proper n (List.mem_cons_self ..)
  -- the first character is that of the first name, in which there is no slash
  obtain ⟨c, cs, hcs⟩ := Text.exists_toList_eq_cons hn.ne_empty
  have hc : c ≠ '/' := fun heq => hn.no_slash (by rw [hcs, heq]; exact List.mem_cons_self ..)
  by_cases hrest : rest = []
  · subst hrest
    exact ⟨c, cs, by rw [String.intercalate_singleton, hcs], hc⟩
  · refine ⟨c, cs ++ ("/".toList ++ ("/".intercalate rest).toList), ?_, hc⟩
    rw [String.intercalate_cons_of_ne_nil hrest, String.toList_append, String.toList_append, hcs,
      List.append_assoc, List.cons_append]

/-- A character of joined names is one of a name, or of what joins them. -/
theorem mem_toList_intercalate {sep : String} {ns : List String} {c : Char}
    (h : c ∈ (sep.intercalate ns).toList) : c ∈ sep.toList ∨ ∃ name ∈ ns, c ∈ name.toList := by
  induction ns with
  | nil => simp at h
  | cons n ns ih =>
    by_cases hns : ns = []
    · subst hns
      rw [String.intercalate_singleton] at h
      exact .inr ⟨n, List.mem_cons_self .., h⟩
    · rw [String.intercalate_cons_of_ne_nil hns, String.toList_append, String.toList_append,
        List.mem_append, List.mem_append] at h
      rcases h with (h | h) | h
      · exact .inr ⟨n, List.mem_cons_self .., h⟩
      · exact .inl h
      · refine (ih h).imp_right ?_
        rintro ⟨name, hname, hc⟩
        exact ⟨name, List.mem_cons_of_mem _ hname, hc⟩

/-- A path without backslashes stays as it is. -/
theorem Path.slashed_eq_self {path : String} (h : '\\' ∉ path.toList) : slashed path = path := by
  have hsame : ∀ c ∈ path.toList, (if c == '\\' then '/' else c) = c := by
    intro c hc
    have hne : c ≠ '\\' := fun heq => h (heq ▸ hc)
    simp [hne]
  rw [slashed, ← String.toList_inj, String.toList_map, List.map_congr_left hsame, List.map_id']

/-! ## Directories without links -/

namespace Entry

/-- Whether there is no link in an entry, and no backslash in a name. -/
def Plain (e : Entry) : Prop :=
  ∀ ns e', e.at? ns = some e' → (∀ target, e' ≠ .link target) ∧ ∀ name ∈ ns, '\\' ∉ name.toList

/-- A file is `Plain`: there is no name in it and nothing below it. -/
theorem plain_file (bytes : ByteArray) : (file bytes).Plain := by
  intro ns e' h
  cases ns with
  | nil =>
    cases h
    exact ⟨nofun, List.forall_mem_nil _⟩
  | cons n ns => cases h

/-- A directory of `Plain` entries is `Plain` if no backslash stands in the names of its
children. -/
theorem plain_dir {children : List (String × Entry)}
    (h : ∀ c ∈ children, '\\' ∉ c.1.toList ∧ c.2.Plain) : (dir children).Plain := by
  intro ns e' hat
  cases ns with
  | nil =>
    cases hat
    exact ⟨nofun, List.forall_mem_nil _⟩
  | cons n ns =>
    obtain ⟨c, hc, hrest⟩ := Option.bind_eq_some_iff.1 hat
    obtain ⟨hname, hplain⟩ := h (n, c) (mem_of_lookup hc)
    obtain ⟨hlink, hnames⟩ := hplain ns e' hrest
    exact ⟨hlink, List.forall_mem_cons.2 ⟨hname, hnames⟩⟩

/-- What is in a plain entry is plain. -/
theorem Plain.child {e c : Entry} {n : String} (h : e.Plain) (hc : e.child? n = some c) :
    c.Plain := by
  intro ns e' hat
  have hat' : e.at? (n :: ns) = some e' := by
    rw [at?, hc]
    exact hat
  obtain ⟨hlink, hnames⟩ := h (n :: ns) e' hat'
  exact ⟨hlink, fun name hname => hnames name (List.mem_cons_of_mem _ hname)⟩

end Entry

namespace FileTree

/-- Where there are no links, names lead to what they reach, and nowhere else. -/
theorem walk_eq_ok_iff {root e : Entry} {here ns place : List String}
    (hhere : root.at? here = some e) (hplain : e.Plain) (hns : ∀ name ∈ ns, name ≠ "..")
    (followLast : Bool) (links : Nat) :
    walk root followLast links here ns = .ok place ↔
      place = here ++ ns ∧ (root.at? (here ++ ns)).isSome := by
  induction ns generalizing here e with
  | nil => simp [walk, hhere, eq_comm]
  | cons n ns ih =>
    rw [List.forall_mem_cons] at hns
    have hnext : ∀ c, e.child? n = some c → root.at? (here ++ [n]) = some c := by
      intro c hc
      rw [Entry.at?_append, hhere, Option.bind_some, Entry.at?, hc]
      rfl
    have hnone : e.child? n = none → root.at? (here ++ n :: ns) = none := by
      intro hc
      rw [Entry.at?_append, hhere, Option.bind_some, Entry.at?, hc]
      rfl
    cases e with
    | dir children =>
      cases hc : children.lookup n with
      | none => simp [walk, hhere, hns.1, hc, hnone hc]
      | some c =>
        have hwalk := ih (hnext c hc) (hplain.child hc) hns.2
        rw [List.append_assoc, List.singleton_append] at hwalk
        cases c with
        | link target =>
          -- a plain entry has no links in it
          exact absurd rfl (((hplain.child hc) [] _ rfl).1 target)
        | _ => simp [walk, hhere, hns.1, hc, hwalk]
    | _ => simp [walk, hhere, hnone rfl]

/-- The names of two paths with a slash between them are those of one and then those of the
other. -/
theorem names_append (a b : String) : names (a ++ "/" ++ b) = names a ++ names b := by
  rw [names, Text.splitAll_append rfl, List.filter_append]
  rfl

/-- The place of a path that can lead to a file. -/
theorem resolve_eq_ok_iff {t : FileTree} {path : String} {place : List String}
    (hempty : path.isEmpty = false) (hends : endsInDirectory path = false) :
    t.resolve path = .ok place ↔
      walk t.root true maxLinks (t.base path) (names path) = .ok place ∧
        (t.root.at? place).isSome := by
  rw [resolve, hempty]
  simp only [Bool.false_eq_true, if_false, hends, bind, Except.bind]
  cases walk t.root true maxLinks (t.base path) (names path) with
  | error e => simp
  | ok here =>
    dsimp only
    cases hhere : t.root.at? here with
    | none =>
      simp only [reduceCtorEq, Except.ok.injEq, false_iff, not_and]
      rintro rfl
      simp [hhere]
    | some e =>
      have hsome : here = place → (t.root.at? place).isSome := by
        rintro rfl
        rw [hhere]
        rfl
      cases e <;> simpa using hsome

/-- **A relative path of a file** leads to it from the working directory. -/
theorem resolve_relative {t : FileTree} {parts : List String} {bytes : ByteArray}
    (hparts : ProperNames parts) (hat : t.root.at? (t.workDir ++ parts) = some (.file bytes)) :
    t.resolve ("/".intercalate parts) = .ok (t.workDir ++ parts) := by
  obtain ⟨c, cs, hcs, hc⟩ := hparts.exists_toList
  have hempty : ("/".intercalate parts).isEmpty = false := by
    rw [String.isEmpty_eq_false_iff, ne_eq, ← String.toList_eq_nil_iff, hcs]
    exact List.cons_ne_nil c cs
  have hbase : t.base ("/".intercalate parts) = t.workDir := by
    simp [base, isAbsolute, hcs, hc]
  have hends : endsInDirectory ("/".intercalate parts) = false := by
    have hsplit := hparts.splitAll
    obtain ⟨before, last, rfl⟩ := (List.eq_nil_or_concat' parts).resolve_left hparts.ne_nil
    exact not_endsInDirectory hsplit (hparts.proper last (by simp))
  have hwalk : walk t.root true maxLinks t.workDir parts = .ok (t.workDir ++ parts) :=
    walk_of_at? (fun name hname => (hparts.proper name hname).ne_dots) hat
      (fun _ heq => by cases heq) _ _
  rw [resolve_eq_ok_iff hempty hends, hbase, hparts.names]
  exact ⟨hwalk, hat ▸ rfl⟩

section Below

variable {t : FileTree} {root parts : List String} {children : List (String × Entry)}
  (h : t.root.Proper) (hroot : t.root.at? root = some (.dir children))
  (hplain : (Entry.dir children).Plain) (hparts : ProperNames parts)

include h hroot hplain hparts

/-- **A path below a directory without links** leads to what its names reach, and nowhere else. -/
theorem resolve_below_iff (place : List String) :
    t.resolve (absolute root ++ "/" ++ "/".intercalate parts) = .ok place ↔
      place = root ++ parts ∧ (t.root.at? (root ++ parts)).isSome := by
  have hproper := (h.of_at? hroot).2
  have hnames : names (absolute root ++ "/" ++ "/".intercalate parts) = root ++ parts := by
    rw [names_append, names_absolute hproper, hparts.names]
  have hfrom : t.root.at? ([] ++ root) = some (.dir children) := hroot
  -- the way to the directory is free of links because the directory is at its end, the way on
  -- because the directory is plain
  have hwalk : walk t.root true maxLinks [] (root ++ parts) = .ok place ↔
      place = root ++ parts ∧ (t.root.at? (root ++ parts)).isSome := by
    rw [walk_append_of_at? (fun name hname => (hproper name hname).ne_dots) hfrom
      (fun _ heq => by cases heq)]
    exact walk_eq_ok_iff hroot hplain (fun name hname => (hparts.proper name hname).ne_dots) _ _
  have hends : endsInDirectory (absolute root ++ "/" ++ "/".intercalate parts) = false := by
    have hmark : "/".toList = ['/'] := rfl
    have hsplit := Text.splitAll_append hmark (absolute root) ("/".intercalate parts)
    rw [hparts.splitAll] at hsplit
    obtain ⟨before, last, rfl⟩ := (List.eq_nil_or_concat' parts).resolve_left hparts.ne_nil
    rw [← List.append_assoc] at hsplit
    exact not_endsInDirectory hsplit (hparts.proper last (by simp))
  have hisAbsolute : isAbsolute (absolute root ++ "/" ++ "/".intercalate parts) := by
    simp [isAbsolute, absolute]
  have hempty : (absolute root ++ "/" ++ "/".intercalate parts).isEmpty = false := by
    simp [absolute]
  rw [resolve_eq_ok_iff hempty hends, hnames, base, if_pos hisAbsolute, hwalk]
  constructor
  · exact And.left
  · rintro ⟨rfl, hsome⟩
    exact ⟨⟨rfl, hsome⟩, hsome⟩

/-- A path below a directory without links is one of a file if its names reach a file. -/
theorem isFileBelow_iff :
    Run.isFileBelow t root ("/".intercalate parts) ↔
      ∃ bytes, t.root.at? (root ++ parts) = some (.file bytes) := by
  have hresolve := resolve_below_iff h hroot hplain hparts
  rw [Run.isFileBelow, isFile, entry]
  cases hat : t.root.at? (root ++ parts) with
  | none =>
    cases hplace : t.resolve (absolute root ++ "/" ++ "/".intercalate parts) with
    | error e => simp [bind, Except.bind]
    | ok place =>
      have hsome := ((hresolve place).1 hplace).2
      rw [hat] at hsome
      cases hsome
  | some e =>
    rw [(hresolve (root ++ parts)).2 ⟨rfl, hat ▸ rfl⟩]
    simp only [bind, Except.bind, hat]
    cases e <;> simp [Entry.isFile]

end Below

end FileTree

/-! ## Paths of files -/

namespace Locator

variable {l : Locator} {t : FileTree} {path path' : String} {place place' : List String}

/-- **A path denotes a place**: it is made of the names that lead from the root to the place, and
there is a file. -/
structure Denotes (l : Locator) (t : FileTree) (path : String) (place : List String) : Prop where
  exists_names : ∃ parts, ProperNames parts ∧ path = "/".intercalate parts ∧ place = l.root ++ parts
  exists_file : ∃ bytes, t.root.at? place = some (.file bytes)

/-- A place is denoted by one path. -/
theorem Denotes.path_unique (h : l.Denotes t path place) (h' : l.Denotes t path' place) :
    path' = path := by
  obtain ⟨parts, -, rfl, hplace⟩ := h.exists_names
  obtain ⟨parts', -, rfl, hplace'⟩ := h'.exists_names
  rw [hplace] at hplace'
  rw [List.append_cancel_left hplace']

/-- Every place that is found below a directory is further down in it. -/
theorem exists_append_of_mem_placesBelow {depth : Nat} {rules : IgnoreRules} {dir : List String}
    (h : place ∈ placesBelow l t depth rules dir) : ∃ parts ≠ [], place = dir ++ parts := by
  induction depth generalizing rules dir with
  | zero => cases h
  | succ depth ih =>
    rw [placesBelow] at h
    split at h
    · rcases of_mem_placesIn h with ⟨name, bytes, -, rfl⟩ | ⟨name, children, -, hbelow⟩
      · exact ⟨[name], List.cons_ne_nil _ _, rfl⟩
      · obtain ⟨parts, -, rfl⟩ := ih hbelow
        exact ⟨name :: parts, List.cons_ne_nil _ _, by rw [List.append_assoc]; rfl⟩
    · cases h

/-- The path of a place as it is written in the root. -/
def pathBelow (l : Locator) (place : List String) : String :=
  "/".intercalate (place.drop l.root.length)

/-- The path below the root, with its separators turned into slashes, is `relativePath`. -/
theorem slashed_pathBelow (l : Locator) (place : List String) :
    Path.slashed (l.pathBelow place) = l.relativePath place := rfl

/-- A proper name counts, and with it all that follows. -/
theorem dropIdle_cons {name : String} (h : ProperName name) (parts : List String) :
    dropIdle (name :: parts) = name :: parts :=
  List.dropWhile_cons_of_neg (by simp [h.ne_empty, h.ne_dot])

/-- Names that stand for themselves all count. -/
theorem dropIdle_eq_self {parts : List String} (h : ∀ name ∈ parts, ProperName name) :
    dropIdle parts = parts := by
  cases parts with
  | nil => rfl
  | cons name parts => exact dropIdle_cons (h name (List.mem_cons_self ..)) parts

/-- `afterNames?` gives what follows the names. -/
theorem afterNames?_append {root : List String} (h : ∀ name ∈ root, ProperName name)
    (parts : List String) : afterNames? root (root ++ parts) = some parts := by
  induction root with
  | nil => rfl
  | cons name root ih =>
    rw [List.forall_mem_cons] at h
    rw [List.cons_append, afterNames?, dropIdle_cons h.1]
    simp only [beq_self_eq_true, if_true]
    exact ih h.2

/-- In the path of a place, what follows the names of the root is the rest of the place, but for
parts in front of it that do not count. -/
theorem exists_afterNames?_absolute {root parts : List String}
    (h : ∀ name ∈ root ++ parts, ProperName name) :
    ∃ rest, afterNames? root (Text.splitAll '/' (FileTree.absolute (root ++ parts))) = some rest ∧
      dropIdle rest = dropIdle parts := by
  by_cases hne : root ++ parts = []
  · obtain ⟨rfl, rfl⟩ := List.append_eq_nil_iff.1 hne
    have hslash : Text.splitAll '/' (FileTree.absolute ([] ++ [])) = ["", ""] := by
      simp [FileTree.absolute, Text.splitAll, List.splitOn_cons_eq_if_modifyHead]
    exact ⟨["", ""], by rw [hslash, afterNames?], by simp [dropIdle]⟩
  · rw [FileTree.splitAll_absolute h hne]
    cases root with
    | nil => exact ⟨"" :: parts, rfl, by simp [dropIdle]⟩
    | cons name root =>
      -- the empty part in front of the first name does not count
      have hidle : afterNames? (name :: root) ("" :: (name :: root ++ parts))
          = afterNames? (name :: root) (name :: root ++ parts) := by
        simp [afterNames?, dropIdle]
      refine ⟨parts, hidle.trans (afterNames?_append ?_ parts), rfl⟩
      exact fun n hn => h n (List.mem_append_left _ hn)

/-- **A path below the root and its place are seen alike from the root**: `relativeTo` says of the
path of a place what `relativePath` says of the place. -/
theorem relativeTo_absolute {parts : List String}
    (h : ∀ name ∈ l.root ++ parts, ProperName name) :
    l.relativeTo (FileTree.absolute (l.root ++ parts)) = l.relativePath (l.root ++ parts) := by
  have hparts : ∀ name ∈ parts, ProperName name := fun name hname =>
    h name (List.mem_append_right _ hname)
  have hisAbsolute : FileTree.isAbsolute (FileTree.absolute (l.root ++ parts)) := by
    simp [FileTree.isAbsolute, FileTree.absolute]
  have hends : (dropIdle (dropIdle parts).reverse).reverse = parts := by
    have hreverse : ∀ name ∈ parts.reverse, ProperName name := fun name hname =>
      hparts name (List.mem_reverse.1 hname)
    rw [dropIdle_eq_self hparts, dropIdle_eq_self hreverse, List.reverse_reverse]
  obtain ⟨rest, hafter, hidle⟩ := exists_afterNames?_absolute h
  rw [relativeTo, relativePath, List.drop_left]
  simp only [hisAbsolute, if_true, hafter, hidle, hends]

/-- The path of a visited place is seen from the root as `relativeTo` says. -/
theorem relativeTo_of_mem_places (h : t.root.Proper) {children : List (String × Entry)}
    (hroot : t.root.at? l.root = some (.dir children)) (hmem : place ∈ l.places t) :
    l.relativeTo (FileTree.absolute place) = l.relativePath place := by
  obtain ⟨bytes, hbytes⟩ := exists_file_of_mem_places h hroot hmem
  obtain ⟨parts, -, rfl⟩ := exists_append_of_mem_placesBelow hmem
  exact relativeTo_absolute (h.of_at? hbytes).2

/-- **What is read in the root** under the path of a visited place is what is there. -/
theorem read_pathBelow (h : t.root.Proper) {extensions : List String} {ignoring : Bool}
    {home : Option String} (hl : ofPath t path extensions ignoring home = .ok l)
    (hmem : place ∈ l.places t) :
    FileTree.read { t with workDir := l.root } (l.pathBelow place)
      = t.read (FileTree.absolute place) := by
  obtain ⟨children, hroot⟩ := at?_root_of_ofPath hl
  obtain ⟨bytes, hbytes⟩ := exists_file_of_mem_places h hroot hmem
  have habsolute := resolve_of_mem_places h hl hmem
  obtain ⟨parts, hne, rfl⟩ := exists_append_of_mem_placesBelow hmem
  have hparts : ProperNames parts :=
    ⟨hne, fun name hname => (h.of_at? hbytes).2 name (List.mem_append_right _ hname)⟩
  have hrelative : FileTree.resolve { t with workDir := l.root } ("/".intercalate parts)
      = .ok (l.root ++ parts) := FileTree.resolve_relative hparts hbytes
  rw [FileTree.read, FileTree.read, habsolute, pathBelow, List.drop_left, hrelative]

section Plain

variable {children : List (String × Entry)} (h : t.root.Proper)
  (hroot : t.root.at? l.root = some (.dir children)) (hplain : (Entry.dir children).Plain)

include h hroot hplain

/-- What a path denotes is what it leads to. -/
theorem Denotes.resolve (hd : l.Denotes t path place) :
    t.resolve (FileTree.absolute l.root ++ "/" ++ path) = .ok place := by
  obtain ⟨parts, hparts, rfl, rfl⟩ := hd.exists_names
  obtain ⟨bytes, hbytes⟩ := hd.exists_file
  exact (FileTree.resolve_below_iff h hroot hplain hparts _).2 ⟨rfl, hbytes ▸ rfl⟩

/-- **A walk knows a place by the path that denotes it.** -/
theorem denotes_relativePath (hmem : place ∈ l.places t) :
    l.Denotes t (l.relativePath place) place := by
  obtain ⟨bytes, hbytes⟩ := exists_file_of_mem_places h hroot hmem
  obtain ⟨parts, hne, rfl⟩ := exists_append_of_mem_placesBelow hmem
  have hproper := (h.of_at? hbytes).2
  have hat : (Entry.dir children).at? parts = some (.file bytes) := by
    rw [Entry.at?_append, hroot] at hbytes
    exact hbytes
  have hpath : l.relativePath (l.root ++ parts) = "/".intercalate parts := by
    rw [relativePath, List.drop_left, Path.slashed_eq_self]
    intro hc
    rcases mem_toList_intercalate hc with hc | ⟨name, hname, hc⟩
    · simp at hc
    · exact (hplain parts _ hat).2 name hname hc
  refine ⟨⟨parts, ⟨hne, fun name hname => ?_⟩, hpath, rfl⟩, bytes, hbytes⟩
  exact hproper name (List.mem_append_right _ hname)

/-- Joined names that are found to be a file denote it. -/
theorem denotes_of_isFileBelow {parts : List String} (hparts : ProperNames parts)
    (hfile : Run.isFileBelow t l.root ("/".intercalate parts)) :
    l.Denotes t ("/".intercalate parts) (l.root ++ parts) :=
  ⟨⟨parts, hparts, rfl, rfl⟩, (FileTree.isFileBelow_iff h hroot hplain hparts).1 hfile⟩

end Plain

end Locator

end CodeGraph
