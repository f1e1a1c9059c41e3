import CodeGraph.Proofs.Files.Hidden
import CodeGraph.Proofs.Text.Bytes

/-! # What a walk visits, and in which order

A walk lists the entries of a directory in the order of their names and goes into a directory where
its name stands. So the ways from the root to the files that it visits are in order, name by name
and each name by its bytes (`Locator.pairwise_places`); in particular nothing is visited twice.
Ignore rules can take files out of the walk and put hidden ones in, but they do not move any.

Where ignore files do not count, a walk visits the files on whose way no name is hidden and that
have one of the extensions (`Locator.mem_places_of_not_ignoring`). Both together determine the list
of files (`Locator.walk_exact_and_ordered`). -/

namespace CodeGraph

/-- The order of ways: the first name on which they differ decides, by its bytes, and a way comes
before what lies beyond it. -/
def BytesLt (way way' : List String) : Prop :=
  List.Lex (fun a b => List.Lex (· < ·) (Text.bytes a) (Text.bytes b)) way way'

/-- The order of ways by bytes is the order of lists of strings. -/
theorem bytesLt_iff {way way' : List String} : BytesLt way way' ↔ way < way' := by
  have hname : (fun a b => List.Lex (· < ·) (Text.bytes a) (Text.bytes b))
      = fun a b : String => a < b := by
    funext a b
    exact propext Text.lt_iff_bytes.symm
  rw [BytesLt, hname]
  exact Iff.rfl

/-- What ways have in common at their start does not count. -/
theorem append_lt_append_iff {dir way way' : List String} :
    dir ++ way < dir ++ way' ↔ way < way' := by
  induction dir with
  | nil => rfl
  | cons name dir ih =>
    rw [List.cons_append, List.cons_append, List.cons_lt_cons_iff, ih]
    simp

/-- What a path leads to is somewhere in the tree. -/
theorem FileTree.exists_at?_of_entry {t : FileTree} {path : String} {e : Entry}
    (h : t.entry path = .ok e) : ∃ place, t.root.at? place = some e := by
  rw [entry] at h
  cases hplace : t.resolve path with
  | error err => simp [hplace, bind, Except.bind] at h
  | ok place =>
    refine ⟨place, ?_⟩
    cases hat : t.root.at? place with
    | none => simp [hplace, hat, bind, Except.bind] at h
    | some found => simpa [hplace, hat, bind, Except.bind] using h

namespace Locator

variable {l : Locator} {t : FileTree}

/-! ## Order -/

/-- Entries with different names are sorted strictly. -/
theorem pairwise_sorted {children : List (String × Entry)}
    (h : (children.map Prod.fst).Nodup) :
    (sorted children).Pairwise fun a b => a.1 < b.1 := by
  have hperm : (sorted children).Perm children := List.mergeSort_perm children _
  have hle : (sorted children).Pairwise fun a b => decide (a.1 ≤ b.1) := by
    refine List.pairwise_mergeSort (fun a b c hab hbc => ?_) (fun a b => ?_) children
    · exact decide_eq_true (le_trans (of_decide_eq_true hab) (of_decide_eq_true hbc))
    · simpa using le_total a.1 b.1
  have hne : (sorted children).Pairwise fun a b => a.1 ≠ b.1 :=
    List.pairwise_map.1 ((hperm.map Prod.fst).nodup_iff.2 h)
  refine (hle.and hne).imp ?_
  rintro a b ⟨hab, hne⟩
  exact lt_of_le_of_ne (of_decide_eq_true hab) hne

section Below

variable {below : IgnoreRules → List String → List (List String)} {rules : IgnoreRules}
  {dir : List String} (hway : ∀ name, ∀ place ∈ below rules (dir ++ [name]),
    ∃ way, place = dir ++ name :: way)
include hway

/-- The way to a place that is visited in a directory leads through one of its entries. -/
theorem exists_way_of_mem_placesIn {entries : List (String × Entry)} {place : List String}
    (h : place ∈ placesIn l below rules dir entries) :
    ∃ entry ∈ entries, ∃ way, place = dir ++ entry.1 :: way := by
  rcases of_mem_placesIn h with ⟨name, bytes, hmem, rfl⟩ | ⟨name, children, hmem, hbelow⟩
  · exact ⟨_, hmem, [], rfl⟩
  · exact ⟨_, hmem, hway name place hbelow⟩

/-- **One directory**: if its entries are in the order of their names, and so is what is `below`
each of its directories, then what is visited in it is in order. -/
theorem pairwise_placesIn (hbelow : ∀ name, (below rules (dir ++ [name])).Pairwise (· < ·))
    {entries : List (String × Entry)} (h : entries.Pairwise fun a b => a.1 < b.1) :
    (placesIn l below rules dir entries).Pairwise (· < ·) := by
  induction entries with
  | nil => exact .nil
  | cons entry rest ih =>
    have hsplit : placesIn l below rules dir (entry :: rest)
        = placesIn l below rules dir [entry] ++ placesIn l below rules dir rest := by
      simp only [placesIn, List.append_nil]
    rw [List.pairwise_cons] at h
    rw [hsplit, List.pairwise_append]
    refine ⟨?_, ih h.2, fun place hplace later hlater => ?_⟩
    · obtain ⟨name, e⟩ := entry
      simp only [placesIn, List.append_nil]
      split
      · exact .nil
      · cases e with
        | dir children => exact hbelow name
        | link target => exact .nil
        | file bytes =>
          dsimp only
          split
          · exact List.pairwise_singleton _ _
          · exact .nil
    · -- both ways lead through the directory, and then the second one to a later name
      obtain ⟨first, hfirst, way, rfl⟩ := exists_way_of_mem_placesIn hway hplace
      obtain ⟨second, hsecond, way', rfl⟩ := exists_way_of_mem_placesIn hway hlater
      rw [List.mem_singleton] at hfirst
      subst hfirst
      exact append_lt_append_iff.2 (.rel (h.1 second hsecond))

end Below

/-- The places below a directory are found in increasing order, by induction on the depth. -/
theorem pairwise_placesBelow (h : t.root.Proper) (depth : Nat) (rules : IgnoreRules)
    (dir : List String) : (placesBelow l t depth rules dir).Pairwise (· < ·) := by
  induction depth generalizing rules dir with
  | zero => exact .nil
  | succ depth ih =>
    rw [placesBelow]
    split
    · next children hentry =>
      obtain ⟨place, hat⟩ := FileTree.exists_at?_of_entry hentry
      refine pairwise_placesIn (fun name place hplace => ?_) (fun name => ih _ _)
        (pairwise_sorted (h.of_at? hat).1.1)
      obtain ⟨way, -, hway⟩ := exists_append_of_mem_placesBelow hplace
      exact ⟨way, by simp [hway]⟩
    · exact .nil

/-- **A walk visits files in order.** -/
theorem pairwise_places (h : t.root.Proper) : (l.places t).Pairwise (· < ·) :=
  pairwise_placesBelow h _ _ _

/-- The ways from the root to the files that a walk visits are in order. -/
theorem pairwise_ways (h : t.root.Proper) :
    ((l.places t).map (·.drop l.root.length)).Pairwise BytesLt := by
  rw [List.pairwise_map]
  refine (pairwise_places h).imp_of_mem fun {place later} hplace hlater hlt => ?_
  obtain ⟨way, -, rfl⟩ := exists_append_of_mem_placesBelow hplace
  obtain ⟨way', -, rfl⟩ := exists_append_of_mem_placesBelow hlater
  rw [List.drop_left, List.drop_left, bytesLt_iff]
  exact append_lt_append_iff.1 hlt

/-! ## Files without ignore rules -/

/-- Where ignore files do not count, the entries on a way are let through that are not hidden. -/
theorem admitsWay_of_not_ignoring (h : l.ignoring = false) {dir way : List String} :
    l.AdmitsWay t dir way ↔ ∀ name ∈ way, isHidden name = false := by
  induction way generalizing dir with
  | nil => simp [AdmitsWay]
  | cons name rest ih =>
    rw [AdmitsWay, ih, List.forall_mem_cons, Admits, verdictOn_of_not_ignoring h]
    simp

/-- Whether the last name of a way has one of some extensions, where neither dots in front of an
extension nor upper case matter. -/
def HasExtension (extensions way : List String) : Prop :=
  ∃ name ext, way.getLast? = some name ∧ Path.extensionOfName? name = some ext ∧
    ∃ wanted ∈ extensions, ext.map Char.toLower = normalExtension wanted

/-- A walk looks for the names that have one of the extensions it was given. -/
theorem wantsLast_iff {extensions way : List String}
    (h : l.extensions = extensions.map normalExtension) :
    l.WantsLast way ↔ HasExtension extensions way := by
  have hwants : ∀ name, l.wants name ↔ ∃ ext, Path.extensionOfName? name = some ext ∧
      ∃ wanted ∈ extensions, ext.map Char.toLower = normalExtension wanted := by
    intro name
    rw [wants, h]
    cases Path.extensionOfName? name with
    | none => simp
    | some ext => simp [eq_comm]
  simp only [WantsLast, HasExtension, hwants, exists_and_left]

/-- **What a walk visits without ignore files**: the files below the root that have one of the
extensions and on whose way nothing is hidden. -/
theorem mem_places_of_not_ignoring (h : t.root.Proper) {children : List (String × Entry)}
    (hroot : t.root.at? l.root = some (.dir children)) (hignoring : l.ignoring = false)
    {extensions : List String} (hextensions : l.extensions = extensions.map normalExtension)
    {place : List String} :
    place ∈ l.places t ↔ ∃ way bytes, place = l.root ++ way ∧
      t.root.at? place = some (.file bytes) ∧ (∀ name ∈ way, isHidden name = false) ∧
      HasExtension extensions way := by
  simp only [mem_places_iff h hroot, admitsWay_of_not_ignoring hignoring, wantsLast_iff hextensions]
  constructor
  · rintro ⟨way, bytes, rfl, -, hat, hextension, hshown⟩
    exact ⟨way, bytes, rfl, hat, hshown, hextension⟩
  · rintro ⟨way, bytes, rfl, hat, hshown, hextension⟩
    refine ⟨way, bytes, rfl, ?_, hat, hextension, hshown⟩
    rintro rfl
    obtain ⟨name, ext, hlast, -⟩ := hextension
    cases hlast

/-- **A walk is exact and ordered.** Where ignore files do not count, it visits the files below its
root that have one of the extensions and on whose way nothing is hidden, the names of directories
and of the file itself, and each of them once. Whether or not ignore files count, the ways to the
files that are visited go up strictly, name by name in the order of bytes. And where ignore files
count, the files that are visited with nothing hidden on their way are among those of the walk
without ignore files, in the same order. Names are texts here and directories can always be listed,
as in every `FileTree`: of names that are no texts, and of directories that cannot be listed, this
says nothing. -/
theorem walk_exact_and_ordered (h : t.root.Proper) {path : String} {extensions : List String}
    {home : Option String} {off on : Locator}
    (hoff : ofPath t path extensions false home = .ok off)
    (hon : ofPath t path extensions true home = .ok on) :
    (∀ place, place ∈ (off.files t).value ↔ ∃ way bytes, place = off.root ++ way ∧
      t.root.at? place = some (.file bytes) ∧ (∀ name ∈ way, isHidden name = false) ∧
      HasExtension extensions way) ∧
    (off.files t).value.Nodup ∧
    (∀ l ∈ [off, on], ((l.files t).value.map (·.drop l.root.length)).Pairwise BytesLt) ∧
    ((on.files t).value.filter fun place =>
      (place.drop on.root.length).all fun name => !isHidden name).Sublist (off.files t).value := by
  obtain ⟨-, hplace, heq⟩ := ofPath_eq_ok_iff.1 hoff
  obtain ⟨-, hplace', heq'⟩ := ofPath_eq_ok_iff.1 hon
  obtain ⟨children, hroot⟩ := at?_root_of_ofPath hoff
  have hsame : on.root = off.root := Except.ok.inj (hplace'.symm.trans hplace)
  have hroot' : t.root.at? on.root = some (.dir children) := hsame ▸ hroot
  have hvisited := fun place => (mem_places_of_not_ignoring h hroot (congrArg ignoring heq)
    (congrArg Locator.extensions heq) : place ∈ off.places t ↔ _)
  simp only [value_files]
  refine ⟨hvisited, (pairwise_places h).nodup, fun l _ => pairwise_ways h, ?_⟩
  -- both lists go up, so that it is enough that one is part of the other
  have hsorted := (pairwise_places h : (on.places t).Pairwise (· < ·)).filter
    fun place => (place.drop on.root.length).all fun name => !isHidden name
  refine List.sublist_of_subperm_of_pairwise (hsorted.nodup.subperm fun place hplace => ?_)
    hsorted (pairwise_places h)
  rw [List.mem_filter, mem_places_iff h hroot'] at hplace
  obtain ⟨⟨way, bytes, rfl, -, hat, hwants, -⟩, hshown⟩ := hplace
  rw [List.drop_left, List.all_eq_true] at hshown
  refine (hvisited _).2 ⟨way, bytes, by rw [hsame], hat, fun name hname => ?_,
    (wantsLast_iff (congrArg Locator.extensions heq')).1 hwants⟩
  simpa using hshown name hname

/-- A repository with a link, a hidden directory, and a directory whose files come before a file of
a longer name. -/
def orderSample : FileTree :=
  { root := .dir [("repo", .dir
      [("a.py", .file .empty), ("link.py", .link "a.py"), ("a", .dir [("z.PY", .file .empty)]),
        (".h", .dir [("x.py", .file .empty)])])] }

/-- The walk through the sample. -/
def orderWalk (ignoring : Bool) : Locator := { root := ["repo"], extensions := ["py"], ignoring }

/-- The sample is walked from `/repo`, with the extension in lower case and without its dot. -/
theorem ofPath_orderSample (ignoring : Bool) :
    ofPath orderSample "/repo" [".Py"] ignoring none = .ok (orderWalk ignoring) := by
  cbv

/-- The sample has proper names, each only once in its directory. -/
theorem proper_orderSample : orderSample.root.Proper := by
  have hname : ∀ name ∈ ["repo", "a.py", "link.py", "a", "z.PY", ".h", "x.py"],
      ProperName name := by decide
  refine ⟨by decide, hname _ (by simp), ⟨by decide, ?_⟩, trivial⟩
  exact ⟨hname _ (by simp), trivial, hname _ (by simp), trivial, hname _ (by simp),
    ⟨by decide, hname _ (by simp), trivial, trivial⟩, hname _ (by simp),
    ⟨by decide, hname _ (by simp), trivial, trivial⟩, trivial⟩

/-- In the sample a walk without ignore files visits the file in upper case, and neither the link
nor what is hidden. -/
theorem walk_exact_and_ordered_sample :
    orderSample.root.Proper ∧
      ofPath orderSample "/repo" [".Py"] false none = .ok (orderWalk false) ∧
      ofPath orderSample "/repo" [".Py"] true none = .ok (orderWalk true) ∧
      ["repo", "a", "z.PY"] ∈ ((orderWalk false).files orderSample).value ∧
      ["repo", "link.py"] ∉ ((orderWalk false).files orderSample).value ∧
      ["repo", ".h", "x.py"] ∉ ((orderWalk false).files orderSample).value := by
  obtain ⟨hvisited, -, -, -⟩ := walk_exact_and_ordered proper_orderSample
    (ofPath_orderSample false) (ofPath_orderSample true)
  have hshown : isHidden "a" = false ∧ isHidden "z.PY" = false := by cbv
  have hhidden : isHidden ".h" = true := by cbv
  have hextension : Path.extensionOfName? "z.PY" = some "PY" ∧
      "PY".map Char.toLower = normalExtension ".Py" := by cbv
  refine ⟨proper_orderSample, ofPath_orderSample false, ofPath_orderSample true, ?_, ?_, ?_⟩
  · exact (hvisited _).2 ⟨["a", "z.PY"], .empty, rfl, rfl, by simpa using hshown, "z.PY", "PY", rfl,
      hextension.1, ".Py", List.mem_singleton_self _, hextension.2⟩
  · rw [hvisited]
    rintro ⟨way, bytes, -, hat, -⟩
    cases hat
  · rw [hvisited]
    rintro ⟨way, bytes, hway, -, hnone, -⟩
    have hsplit : ["repo"] ++ [".h", "x.py"] = ["repo"] ++ way := hway
    have hfirst := hnone ".h" (List.append_cancel_left hsplit ▸ List.mem_cons_self ..)
    rw [hhidden] at hfirst
    cases hfirst

end Locator

end CodeGraph
