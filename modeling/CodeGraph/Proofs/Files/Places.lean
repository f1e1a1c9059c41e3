import CodeGraph.Proofs.Files.Walk
import CodeGraph.Proofs.Text.Splitting
import Mathlib.Data.List.Basic

/-! # Places lead to themselves

Directories are usually such that no two entries have the same name, and no name is empty, a dot or
two dots or has a slash in it (`Entry.Proper`). Then the path that is made of a place leads to that
place (`FileTree.resolve_absolute`), and a walk visits places of files
(`Locator.exists_file_of_mem_places`). -/

namespace CodeGraph

/-! ## Names -/

/-- Whether a name can be a part of a path and stand for itself. -/
structure ProperName (name : String) : Prop where
  ne_empty : name ≠ ""
  ne_dot : name ≠ "."
  ne_dots : name ≠ ".."
  no_slash : '/' ∉ name.toList

instance (name : String) : Decidable (ProperName name) :=
  decidable_of_iff (name ≠ "" ∧ name ≠ "." ∧ name ≠ ".." ∧ '/' ∉ name.toList)
    ⟨fun h => ⟨h.1, h.2.1, h.2.2.1, h.2.2.2⟩,
      fun h => ⟨h.ne_empty, h.ne_dot, h.ne_dots, h.no_slash⟩⟩

/-- The parts of joined names are the names. -/
theorem splitAll_intercalate {ns : List String} (h : ∀ name ∈ ns, ProperName name) (hne : ns ≠ []) :
    Text.splitAll '/' ("/".intercalate ns) = ns :=
  Text.splitAll_join rfl (fun name hname => (h name hname).no_slash) hne

namespace FileTree

variable {place : List String}

/-- The parts of the path of a place are its names, after an empty one. -/
theorem splitAll_absolute (h : ∀ name ∈ place, ProperName name) (hne : place ≠ []) :
    Text.splitAll '/' (absolute place) = "" :: place := by
  have hjoin : absolute place = "" ++ "/" ++ "/".intercalate place := by
    rw [absolute, String.empty_append]
  rw [hjoin, Text.splitAll_append rfl, splitAll_intercalate h hne]
  rfl

/-- The names of the absolute path of a place are the names of the place. -/
theorem names_absolute (h : ∀ name ∈ place, ProperName name) : names (absolute place) = place := by
  by_cases hne : place = []
  · subst hne
    simp [names, absolute, Text.splitAll, List.splitOn_cons_eq_if_modifyHead]
  · rw [names, splitAll_absolute h hne, List.filter_cons_of_neg (by simp), List.filter_eq_self]
    intro name hname
    simp [(h name hname).ne_empty, (h name hname).ne_dot]

/-- A path that ends in a proper name can lead to a file. -/
theorem not_endsInDirectory {path last : String} {before : List String}
    (h : Text.splitAll '/' path = before ++ [last]) (hlast : ProperName last) :
    endsInDirectory path = false := by
  rw [endsInDirectory, h, List.reverse_append, List.reverse_singleton, List.singleton_append]
  cases before.reverse <;> simp [hlast.ne_empty, hlast.ne_dot]

/-- The absolute path of a place below the root does not end as a directory's path may. -/
theorem endsInDirectory_absolute (h : ∀ name ∈ place, ProperName name) (hne : place ≠ []) :
    endsInDirectory (absolute place) = false := by
  obtain ⟨before, last, rfl⟩ := (List.eq_nil_or_concat' place).resolve_left hne
  have hsplit : Text.splitAll '/' (absolute (before ++ [last])) = ("" :: before) ++ [last] :=
    splitAll_absolute h hne
  exact not_endsInDirectory hsplit (h last (by simp))

end FileTree

/-! ## Directories -/

namespace Entry

mutual
/-- Whether all directories have proper names, each once. -/
def Proper : Entry → Prop
  | dir children => (children.map Prod.fst).Nodup ∧ ProperAll children
  | _ => True

/-- Whether the entries of a directory have proper names, and so do those inside them. -/
def ProperAll : List (String × Entry) → Prop
  | [] => True
  | (name, e) :: rest => ProperName name ∧ Proper e ∧ ProperAll rest
end

/-- Of entries with proper names each has one, and is itself `Proper`. -/
theorem ProperAll.of_mem {children : List (String × Entry)} (h : ProperAll children) {name : String}
    {e : Entry} (hmem : (name, e) ∈ children) : ProperName name ∧ e.Proper := by
  induction children with
  | nil => cases hmem
  | cons c rest ih =>
    rw [ProperAll] at h
    rcases List.mem_cons.1 hmem with rfl | hmem
    · exact ⟨h.1, h.2.1⟩
    · exact ih h.2.2 hmem

/-- What is looked up in a directory is one of its entries. -/
theorem mem_of_lookup {children : List (String × Entry)} {name : String} {e : Entry}
    (h : children.lookup name = some e) : (name, e) ∈ children := by
  obtain ⟨before, after, rfl, -⟩ := List.lookup_eq_some_iff.1 h
  exact List.mem_append_right before (List.mem_cons_self ..)

/-- Where each name is given once, an entry is found under its name. -/
theorem lookup_of_mem {children : List (String × Entry)} {name : String} {e : Entry}
    (hnodup : (children.map Prod.fst).Nodup) (h : (name, e) ∈ children) :
    children.lookup name = some e := by
  induction children with
  | nil => cases h
  | cons c rest ih =>
    rw [List.map_cons, List.nodup_cons] at hnodup
    rw [List.lookup_cons]
    rcases List.mem_cons.1 h with rfl | h
    · simp
    · have hne : name ≠ c.1 := fun heq => hnodup.1 (heq ▸ List.mem_map_of_mem h)
      rw [beq_false_of_ne hne]
      exact ih hnodup.2 h

/-- Going along two ways is going along one from where the other leads. -/
theorem at?_append (ns ms : List String) (e : Entry) :
    e.at? (ns ++ ms) = (e.at? ns).bind (at? ms) := by
  induction ns generalizing e with
  | nil => rfl
  | cons n ns ih =>
    rw [List.cons_append, at?, at?, Option.bind_assoc]
    exact Option.bind_congr fun c _ => ih c

/-- What is one step further than a directory is what `List.lookup` finds in it. -/
theorem at?_concat {e : Entry} {ns : List String} {children : List (String × Entry)}
    (h : e.at? ns = some (dir children)) (name : String) :
    e.at? (ns ++ [name]) = children.lookup name := by
  rw [at?_append, h, Option.bind_some, at?, child?]
  cases children.lookup name <;> rfl

/-- What is reached in a proper entry is proper, and so are the names on the way. -/
theorem Proper.of_at? {e e' : Entry} {ns : List String} (h : e.Proper) (hat : e.at? ns = some e') :
    e'.Proper ∧ ∀ name ∈ ns, ProperName name := by
  induction ns generalizing e with
  | nil =>
    cases hat
    exact ⟨h, fun name hname => by cases hname⟩
  | cons n ns ih =>
    obtain ⟨c, hc, hrest⟩ := Option.bind_eq_some_iff.1 hat
    cases e with
    | dir children =>
      obtain ⟨hname, hproper⟩ := ProperAll.of_mem h.2 (mem_of_lookup hc)
      obtain ⟨he', hnames⟩ := ih hproper hrest
      exact ⟨he', List.forall_mem_cons.2 ⟨hname, hnames⟩⟩
    | _ => cases hc

end Entry

namespace FileTree

/-- Names lead to what they reach, if that is no link, and on from there. -/
theorem walk_append_of_at? {root e : Entry} {here ns : List String} (hns : ∀ name ∈ ns, name ≠ "..")
    (hat : root.at? (here ++ ns) = some e) (hlink : ∀ target, e ≠ .link target) (followLast : Bool)
    (links : Nat) (rest : List String) :
    walk root followLast links here (ns ++ rest)
      = walk root followLast links (here ++ ns) rest := by
  induction ns generalizing here with
  | nil => rw [List.nil_append, List.append_nil]
  | cons n ns ih =>
    rw [List.forall_mem_cons] at hns
    have hrest : walk root followLast links (here ++ [n]) (ns ++ rest)
        = walk root followLast links (here ++ n :: ns) rest := by
      rw [ih hns.2 (by rwa [List.append_assoc]), List.append_assoc]
      rfl
    rw [Entry.at?_append] at hat
    obtain ⟨d, hd, hd'⟩ := Option.bind_eq_some_iff.1 hat
    obtain ⟨c, hc, hc'⟩ := Option.bind_eq_some_iff.1 hd'
    cases d with
    | dir children =>
      have hfound : children.lookup n = some c := hc
      cases c with
      | link target =>
        -- a link is either the end, which it is not, or has nothing below it
        cases ns with
        | nil => exact absurd (Option.some.inj hc').symm (hlink target)
        | cons m ms => cases hc'
      | _ => simp [walk, hd, hns.1, hfound, hrest]
    | _ => cases hc

/-- **A way without links is walked to its end**: where there is an entry that is no link, and no
step of the way leads up, `walk` finds the way itself. -/
theorem walk_of_at? {root e : Entry} {here ns : List String} (hns : ∀ name ∈ ns, name ≠ "..")
    (hat : root.at? (here ++ ns) = some e) (hlink : ∀ target, e ≠ .link target) (followLast : Bool)
    (links : Nat) : walk root followLast links here ns = .ok (here ++ ns) := by
  rw [← List.append_nil ns, walk_append_of_at? hns hat hlink, walk, List.append_nil]

/-- **The path of a place leads to that place.** Only a file that is everything there is has no
path. -/
theorem resolve_absolute {t : FileTree} {place : List String} {e : Entry} (h : t.root.Proper)
    (hat : t.root.at? place = some e) (hlink : ∀ target, e ≠ .link target)
    (hne : place = [] → e.isDir) : t.resolve (absolute place) = .ok place := by
  have hproper := (h.of_at? hat).2
  have hfrom : t.root.at? ([] ++ place) = some e := hat
  have hwalk : walk t.root true maxLinks [] place = .ok place :=
    walk_of_at? (fun name hname => (hproper name hname).ne_dots) hfrom hlink true maxLinks
  have hisAbsolute : isAbsolute (absolute place) := by simp [isAbsolute, absolute]
  have hisEmpty : (absolute place).isEmpty = false := by simp [absolute]
  rw [resolve, hisEmpty, base, if_pos hisAbsolute, names_absolute hproper, hwalk]
  simp only [bind, Except.bind, hat]
  cases e with
  | dir children => rfl
  | link target => exact absurd rfl (hlink target)
  | file bytes =>
    have hplace : place ≠ [] := fun heq => by cases hne heq
    simp [endsInDirectory_absolute hproper hplace]

/-- The entry at the absolute path of a place is what stands there. -/
theorem entry_absolute {t : FileTree} {place : List String} {children : List (String × Entry)}
    (h : t.root.Proper) (hat : t.root.at? place = some (.dir children)) :
    t.entry (absolute place) = .ok (.dir children) := by
  rw [entry, resolve_absolute h hat (fun _ heq => by cases heq) fun _ => rfl]
  simp only [bind, Except.bind, hat]

/-- A place that can be told by `canonicalize` is the one that the path leads to. -/
theorem resolve_of_canonicalize {t : FileTree} {path : String} {place : List String}
    (h : t.canonicalize path = .ok place) : t.resolve path = .ok place := by
  rw [canonicalize] at h
  split at h
  · cases h
  · exact h

end FileTree

/-! ## Walks -/

namespace Locator

variable {l : Locator} {t : FileTree} {place : List String}

/-- Among the entries of a directory a walk visits the files that it wants and what is `below` the
directories, as far as it does not skip them. -/
theorem mem_placesIn_iff {below : IgnoreRules → List String → List (List String)}
    {rules : IgnoreRules} {dir : List String} {entries : List (String × Entry)} :
    place ∈ placesIn l below rules dir entries ↔
      ∃ name e, (name, e) ∈ entries ∧ l.skips rules (dir ++ [name]) name e.isDir = false ∧
        ((∃ bytes, e = .file bytes ∧ l.wants name ∧ place = dir ++ [name]) ∨
          ∃ children, e = .dir children ∧ place ∈ below rules (dir ++ [name])) := by
  induction entries with
  | nil => simp [placesIn]
  | cons entry rest ih =>
    -- a place is found through the first entry or through one of the rest
    obtain ⟨first, e⟩ := entry
    simp only [placesIn, List.mem_append, ih, List.mem_cons, Prod.mk.injEq]
    constructor
    · rintro (h | ⟨name, e', hmem, h⟩)
      · refine ⟨first, e, .inl ⟨rfl, rfl⟩, ?_⟩
        cases hskips : l.skips rules (dir ++ [first]) first e.isDir with
        | true => simp [hskips] at h
        | false =>
          cases e with
          | file bytes => simpa [hskips] using h
          | dir children => simpa [hskips] using h
          | link target => simp [hskips] at h
      · exact ⟨name, e', .inr hmem, h⟩
    · rintro ⟨name, e', ⟨rfl, rfl⟩ | hmem, hskips, h⟩
      · left
        rcases h with ⟨bytes, rfl, hwants, rfl⟩ | ⟨children, rfl, h⟩
        · simp [hskips, hwants]
        · simpa [hskips] using h
      · exact .inr ⟨name, e', hmem, hskips, h⟩

/-- A place that is visited among the entries of a directory is one of its files or below one of its
directories. -/
theorem of_mem_placesIn {below : IgnoreRules → List String → List (List String)}
    {rules : IgnoreRules} {dir : List String} {entries : List (String × Entry)}
    (h : place ∈ placesIn l below rules dir entries) :
    (∃ name bytes, (name, .file bytes) ∈ entries ∧ place = dir ++ [name]) ∨
      ∃ name children, (name, .dir children) ∈ entries ∧ place ∈ below rules (dir ++ [name]) := by
  obtain ⟨name, e, hmem, -, ⟨bytes, rfl, -, hplace⟩ | ⟨children, rfl, hplace⟩⟩ :=
    mem_placesIn_iff.1 h
  · exact .inl ⟨name, bytes, hmem, hplace⟩
  · exact .inr ⟨name, children, hmem, hplace⟩

/-- Every place that is found below a directory is one of a file. -/
theorem exists_file_of_mem_placesBelow (h : t.root.Proper) {depth : Nat} {rules : IgnoreRules}
    {dir : List String} {children : List (String × Entry)}
    (hdir : t.root.at? dir = some (.dir children))
    (hmem : place ∈ placesBelow l t depth rules dir) :
    ∃ bytes, t.root.at? place = some (.file bytes) := by
  induction depth generalizing rules dir children with
  | zero => cases hmem
  | succ depth ih =>
    have hchild : ∀ {name e}, (name, e) ∈ sorted children →
        t.root.at? (dir ++ [name]) = some e := by
      intro name e he
      rw [Entry.at?_concat hdir,
        Entry.lookup_of_mem (h.of_at? hdir).1.1 (List.mem_mergeSort.1 he)]
    rw [placesBelow, FileTree.entry_absolute h hdir] at hmem
    rcases of_mem_placesIn hmem with ⟨name, bytes, hfile, rfl⟩ | ⟨name, inner, hinner, hbelow⟩
    · exact ⟨bytes, hchild hfile⟩
    · exact ih (hchild hinner) hbelow

/-- **A walk visits places of files.** -/
theorem exists_file_of_mem_places (h : t.root.Proper) {children : List (String × Entry)}
    (hroot : t.root.at? l.root = some (.dir children)) (hmem : place ∈ l.places t) :
    ∃ bytes, t.root.at? place = some (.file bytes) :=
  exists_file_of_mem_placesBelow h hroot hmem

/-- **Where a walk begins**: `ofPath` gives a locator exactly if there is a directory at the path
and its place can be told. -/
theorem ofPath_eq_ok_iff {path : String} {extensions : List String} {ignoring : Bool}
    {home : Option String} :
    ofPath t path extensions ignoring home = .ok l ↔
      t.isDir path ∧ t.canonicalize path = .ok l.root ∧
        l = ⟨l.root, extensions.map normalExtension, ignoring, home⟩ := by
  rw [ofPath]
  cases hdir : t.isDir path with
  | false => simp
  | true =>
    cases hroot : t.canonicalize path with
    | error e => simp
    | ok root =>
      simp only [if_true, Except.ok.injEq, true_and]
      constructor
      · rintro rfl
        exact ⟨rfl, rfl⟩
      · rintro ⟨rfl, hl⟩
        exact hl.symm

/-- A locator begins at a directory. -/
theorem at?_root_of_ofPath {path : String} {extensions : List String} {ignoring : Bool}
    {home : Option String} (h : ofPath t path extensions ignoring home = .ok l) :
    ∃ children, t.root.at? l.root = some (.dir children) := by
  obtain ⟨hdir, hroot, -⟩ := ofPath_eq_ok_iff.1 h
  rw [FileTree.isDir, FileTree.entry, FileTree.resolve_of_canonicalize hroot] at hdir
  simp only [bind, Except.bind] at hdir
  cases he : t.root.at? l.root with
  | none => simp [he] at hdir
  | some e =>
    cases e with
    | dir children => exact ⟨children, rfl⟩
    | _ => simp [he, Entry.isDir] at hdir

/-- **The path of a visited place leads to that place.** -/
theorem resolve_of_mem_places (h : t.root.Proper) {path : String} {extensions : List String}
    {ignoring : Bool} {home : Option String} (hl : ofPath t path extensions ignoring home = .ok l)
    (hmem : place ∈ l.places t) : t.resolve (FileTree.absolute place) = .ok place := by
  obtain ⟨children, hroot⟩ := at?_root_of_ofPath hl
  obtain ⟨bytes, hfile⟩ := exists_file_of_mem_places h hroot hmem
  refine FileTree.resolve_absolute h hfile (fun _ heq => by cases heq) fun heq => ?_
  -- the file is not everything there is, since there is a directory
  subst heq
  rw [Entry.at?, Option.some_inj] at hfile
  rw [hfile] at hroot
  cases hr : l.root with
  | nil => rw [hr] at hroot; cases hroot
  | cons name names => rw [hr] at hroot; cases hroot

end Locator

end CodeGraph
