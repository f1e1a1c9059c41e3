import CodeGraph.Proofs.Files.Places
import CodeGraph.Proofs.Text.Bytes

/-! # Files that are written

A file that is written at a path is read at that path. The place at which it is written is found by
`FileTree.writePlace`, which follows links as `FileTree.walk` does. What is put there is a file, and
nothing but a file was there before. So nothing changes at any other place
(`Entry.exists_modifyAt`), and a walk through the new tree takes the same steps and ends where the
file is (`FileTree.WayTo.walk_eq`). -/

namespace CodeGraph

namespace Entry

/-! ## Entries in the place of others -/

/-- What an entry is by itself: a directory counts without what is in it. -/
def own : Entry → Entry
  | dir _ => dir []
  | e => e

/-- Whether nothing is found or a file, so that a file can be put there. -/
def Writable (found : Option Entry) : Prop := ∀ e, found = some e → e.isFile

/-- What is `dir []` by itself is a directory. -/
theorem exists_dir_of_own {found : Option Entry} (h : found.map own = some (dir [])) :
    ∃ children, found = some (dir children) := by
  obtain ⟨e, rfl, he⟩ := Option.map_eq_some_iff.1 h
  cases e with
  | dir children => exact ⟨children, rfl⟩
  | _ => cases he

/-- What is a link by itself is that link. -/
theorem eq_link_of_own {found : Option Entry} {target : String}
    (h : found.map own = some (link target)) : found = some (link target) := by
  obtain ⟨e, rfl, he⟩ := Option.map_eq_some_iff.1 h
  cases e with
  | link target' => rw [← he]; rfl
  | _ => cases he

/-- What is a file by itself is that file. -/
theorem own_eq_file_iff {found : Option Entry} {bytes : ByteArray} :
    found.map own = some (file bytes) ↔ found = some (file bytes) := by
  cases found with
  | none => simp
  | some e => cases e <;> simp [own]

/-- After `put` a name has the new entry, and every other name has what it had. -/
theorem lookup_put (name n : String) (e : Entry) (children : List (String × Entry)) :
    (put name e children).lookup n = if n = name then some e else children.lookup n := by
  induction children with
  | nil =>
    by_cases h : n = name
    · simp [put, h]
    · simp [put, List.lookup_cons, h, beq_false_of_ne h]
  | cons c rest ih =>
    obtain ⟨m, old⟩ := c
    rw [put]
    by_cases hm : m = name
    · subst hm
      by_cases h : n = m
      · simp [h]
      · simp [List.lookup_cons, h, beq_false_of_ne h]
    · rw [if_neg (by simpa using hm), List.lookup_cons, ih, List.lookup_cons]
      by_cases h : n = m
      · simp [h, hm]
      · rw [beq_false_of_ne h]

/-- Nothing is below what is no directory. -/
theorem at?_cons_of_not_dir {e : Entry} (h : e.isDir = false) (name : String)
    (names : List String) : e.at? (name :: names) = none := by
  cases e with
  | dir children => cases h
  | _ => rfl

/-- Nothing is below a place where a file can be put. -/
theorem Writable.bind_at?_cons {found : Option Entry} (h : Writable found) (name : String)
    (names : List String) : found.bind (at? (name :: names)) = none := by
  cases found with
  | none => rfl
  | some e =>
    have hfile : e.isFile := h e rfl
    refine at?_cons_of_not_dir ?_ name names
    cases e with
    | file bytes => rfl
    | _ => cases hfile

/-- **A file is put in a directory**, where there was a file or nothing. Then it is there, and what
is at any other place stays what it is by itself. -/
theorem exists_modifyAt {last : String} {children : List (String × Entry)} {names : List String}
    {e : Entry} (hdir : e.at? names = some (dir children)) (hold : Writable (children.lookup last))
    (bytes : ByteArray) :
    ∃ new, modifyAt (fun _ => some (file bytes)) (names ++ [last]) (some e) = some new ∧
      new.at? (names ++ [last]) = some (file bytes) ∧
      ∀ other, other ≠ names ++ [last] → (new.at? other).map own = (e.at? other).map own := by
  -- along the way to the directory; beside it, names lead to the same entries
  induction names generalizing e with
  | nil =>
    rw [at?, Option.some_inj] at hdir
    subst hdir
    refine ⟨dir (put last (file bytes) children), rfl, ?_, fun other hother => ?_⟩
    · rw [List.nil_append, at?, child?, lookup_put, if_pos rfl]
      rfl
    cases other with
    | nil => rfl
    | cons n rest =>
      rw [at?, at?, child?, child?, lookup_put]
      by_cases hn : n = last
      · -- below the file there is nothing, as there was before
        subst hn
        obtain ⟨m, rest, rfl⟩ := List.exists_cons_of_ne_nil fun hnil : rest = [] =>
          hother (by rw [hnil, List.nil_append])
        rw [if_pos rfl, hold.bind_at?_cons, Option.bind_some, at?_cons_of_not_dir rfl]
      · rw [if_neg hn]
  | cons name names ih =>
    rw [at?] at hdir
    obtain ⟨sub, hsub, hbelow⟩ := Option.bind_eq_some_iff.1 hdir
    cases e with
    | dir beside =>
      rw [child?] at hsub
      obtain ⟨sub', hsub', hat, hsame⟩ := ih hbelow
      refine ⟨dir (put name sub' beside), ?_, ?_, fun other hother => ?_⟩
      · simp only [List.cons_append, modifyAt, hsub, hsub']
      · rw [List.cons_append, at?, child?, lookup_put, if_pos rfl, Option.bind_some, hat]
      cases other with
      | nil => rfl
      | cons n rest =>
        rw [at?, at?, child?, child?, lookup_put]
        by_cases hn : n = name
        · subst hn
          rw [if_pos rfl, hsub, Option.bind_some, Option.bind_some]
          exact hsame rest fun heq => hother (by rw [heq, List.cons_append])
        · rw [if_neg hn]
    | _ => cases hsub

end Entry

namespace FileTree

open Entry (own Writable)

/-! ## Where a file is written -/

/-- **The way to the place where a file is written**, from a directory along names, with so many
links left to follow. -/
inductive WayTo (root : Entry) (place : List String) : Nat → List String → List String → Prop where
  /-- The last name is in the directory. Under it is a file or nothing. -/
  | found {links : Nat} {here : List String} {name : String} {children : List (String × Entry)}
      (hdir : root.at? here = some (.dir children)) (hname : name ≠ "..")
      (hold : Writable (root.at? (here ++ [name]))) (hplace : place = here ++ [name]) :
      WayTo root place links here [name]
  /-- The way goes up. -/
  | up {links : Nat} {here rest : List String} {children : List (String × Entry)}
      (hdir : root.at? here = some (.dir children))
      (hrest : WayTo root place links here.dropLast rest) :
      WayTo root place links here (".." :: rest)
  /-- The way goes down. -/
  | down {links : Nat} {here rest : List String} {name : String} {inner : List (String × Entry)}
      (hname : name ≠ "..") (hsub : root.at? (here ++ [name]) = some (.dir inner))
      (hrest : WayTo root place links (here ++ [name]) rest) :
      WayTo root place links here (name :: rest)
  /-- The way follows a link. -/
  | follow {links : Nat} {here rest : List String} {name target : String}
      {children : List (String × Entry)} (hdir : root.at? here = some (.dir children))
      (hname : name ≠ "..") (hlink : root.at? (here ++ [name]) = some (.link target))
      (hrest : WayTo root place links (if isAbsolute target then [] else here)
        (names target ++ rest)) :
      WayTo root place (links + 1) here (name :: rest)

variable {root root' : Entry} {links : Nat} {here ns place : List String}

/-- Where `writePlace` gives a place, there is a way to it. -/
theorem wayTo_of_writePlace (h : writePlace root links here ns = .ok place) :
    WayTo root place links here ns := by
  -- one case for each branch; those in which there is an error have nothing to show
  fun_induction writePlace root links here ns with
  | case1 => cases h
  | case2 links here name rest children hdir hup ih =>
    rw [beq_iff_eq] at hup
    exact hup ▸ .up hdir (ih h)
  | case3 links here name rest children hdir hup hnone hlast =>
    obtain rfl := List.isEmpty_iff.1 hlast
    cases h
    refine .found hdir (by simpa using hup) (fun e he => ?_) rfl
    rw [Entry.at?_concat hdir, hnone] at he
    cases he
  | case4 => cases h
  | case5 => cases h
  | case6 here name rest children hdir hup target hlink links ih =>
    exact .follow hdir (by simpa using hup) (by rw [Entry.at?_concat hdir, hlink]) (ih h)
  | case7 links here name rest children hdir hup bytes hfile hlast =>
    obtain rfl := List.isEmpty_iff.1 hlast
    cases h
    refine .found hdir (by simpa using hup) (fun e he => ?_) rfl
    rw [Entry.at?_concat hdir, hfile] at he
    cases he
    rfl
  | case8 => cases h
  | case9 links here name rest children hdir hup inner hsub ih =>
    exact .down (by simpa using hup) (by rw [Entry.at?_concat hdir, hsub]) (ih h)
  | case10 => cases h
  | case11 => cases h

/-- **A file is written in a directory**, in the place of a file or where there is nothing. -/
theorem WayTo.exists_dir (h : WayTo root place links here ns) :
    ∃ dir last children, place = dir ++ [last] ∧ root.at? dir = some (.dir children) ∧
      Writable (root.at? place) := by
  induction h with
  | found hdir _ hold hplace => exact ⟨_, _, _, hplace, hdir, hplace ▸ hold⟩
  | up _ _ ih => exact ih
  | down _ _ _ ih => exact ih
  | follow _ _ _ _ ih => exact ih

/-- **A walk finds the file that was written.** Let a tree have a file at the end of a way through
another tree, and be the same by itself at all other places. Then a walk goes the same way. -/
theorem WayTo.walk_eq (h : WayTo root place links here ns) {bytes : ByteArray}
    (hnew : root'.at? place = some (.file bytes))
    (hsame : ∀ other, other ≠ place → (root'.at? other).map own = (root.at? other).map own) :
    walk root' true links here ns = .ok place := by
  obtain ⟨-, -, -, -, -, hold⟩ := h.exists_dir
  -- what is passed on the way is no file, and so it is not at the place of the file
  have hpassed : ∀ {p e}, root.at? p = some e → e.isFile = false →
      (root'.at? p).map own = some e.own := by
    intro p e hp hfile
    rw [hsame p, hp]
    · rfl
    · rintro rfl
      rw [hold e hp] at hfile
      cases hfile
  induction h with
  | found _ hname _ hplace =>
    subst hplace
    refine walk_of_at? ?_ hnew (fun _ heq => by cases heq) true _
    simpa using hname
  | @up links here rest children hdir _ ih =>
    obtain ⟨children', hdir'⟩ := Entry.exists_dir_of_own (hpassed hdir rfl)
    simp only [walk, hdir', beq_self_eq_true, if_true]
    exact ih
  | @down links here rest name inner hname hsub _ ih =>
    obtain ⟨inner', hsub'⟩ := Entry.exists_dir_of_own (hpassed hsub rfl)
    have hnames : ∀ n ∈ [name], n ≠ ".." := by simpa using hname
    have hstep := walk_append_of_at? hnames hsub' (fun _ heq => by cases heq) true links rest
    rw [List.singleton_append] at hstep
    rw [hstep, ih]
  | @follow links here rest name target children hdir hname hlink _ ih =>
    obtain ⟨children', hdir'⟩ := Entry.exists_dir_of_own (hpassed hdir rfl)
    have hlink' := Entry.eq_link_of_own (hpassed hlink rfl)
    rw [Entry.at?_concat hdir'] at hlink'
    simp only [walk, hdir', beq_false_of_ne hname, Bool.false_eq_true, if_false, hlink',
      Bool.not_true, Bool.and_false]
    exact ih

/-! ## Reading what was written -/

variable {t t' : FileTree} {path : String} {bytes : ByteArray}

/-- **What is written at a path is there.** The path leads to a place, which holds the bytes; at any
other place there is what was there before, a file with what it held. -/
theorem exists_place_of_write (h : t.write path bytes = .ok t') :
    ∃ place, t'.resolve path = .ok place ∧ t'.root.at? place = some (.file bytes) ∧
      t'.locked = t.locked ∧
      ∀ other, other ≠ place → (t'.root.at? other).map own = (t.root.at? other).map own := by
  rw [write] at h
  split at h
  · cases h
  next hpath =>
  cases hplace : writePlace t.root maxLinks (t.base path) (names path) with
  | error e => simp only [hplace, bind, Except.bind] at h; cases h
  | ok place =>
    simp only [hplace, bind, Except.bind] at h
    split at h
    · cases h
    next hfile =>
    cases h
    -- the file is put at the end of the way, and the way is still there afterwards
    have hway := wayTo_of_writePlace hplace
    obtain ⟨dir, last, children, hlast, hdir, hold⟩ := hway.exists_dir
    subst hlast
    rw [Entry.at?_concat hdir] at hold
    obtain ⟨new, hnew, hat, hsame⟩ := Entry.exists_modifyAt hdir hold bytes
    have hroot : (t.put (dir ++ [last]) (.file bytes)).root = new := by
      rw [put, hnew]
      rfl
    rw [← hroot] at hat hsame
    have hwalk := hway.walk_eq hat hsame
    refine ⟨dir ++ [last], ?_, hat, rfl, hsame⟩
    have hbase : (t.put (dir ++ [last]) (.file bytes)).base path = t.base path := rfl
    rw [resolve, if_neg hpath, hbase, hwalk]
    simp only [bind, Except.bind, hat, if_neg hfile]

/-- **What was written is read**, unless the file may not be read. -/
theorem read_of_write (h : t.write path bytes = .ok t') {place : List String}
    (hplace : t'.resolve path = .ok place) :
    t'.read path = if place ∈ t.locked then .error .notPermitted else .ok bytes := by
  obtain ⟨place', hplace', hat, hlocked, -⟩ := exists_place_of_write h
  obtain rfl : place = place' := Except.ok.inj (hplace.symm.trans hplace')
  rw [read, hplace]
  simp only [bind, Except.bind, hat, hlocked, List.contains_iff_mem]

/-- **A text that was written is read**, unless the file may not be read. -/
theorem readText_of_write {text : String} (h : t.write path text.toUTF8 = .ok t')
    {place : List String} (hplace : t'.resolve path = .ok place) :
    t'.readText path = if place ∈ t.locked then .error .notPermitted else .ok text := by
  rw [readText, read_of_write h hplace]
  by_cases hlocked : place ∈ t.locked
  · rw [if_pos hlocked, if_pos hlocked]
    rfl
  · rw [if_neg hlocked, if_neg hlocked]
    simp only [bind, Except.bind, Text.fromUTF8?_toUTF8]

end FileTree

end CodeGraph
