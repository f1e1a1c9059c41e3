import CodeGraph.Proofs.Files.Walk

/-! # What depends on the contents of files

Where a path leads depends on directories and links and on where there are files, but not on what
the files hold (`Entry.shape`). So if two trees differ only in what some files hold and in whether
these may be read (`FileTree.SameBut`), paths lead to the same places in both, all other files read
the same, and a walk visits the same places, unless a file that differs is one of those with ignore
rules (`Locator.Consults`). -/

namespace CodeGraph

/-! ## Shapes -/

namespace Entry

mutual
/-- An entry without what its files hold. -/
def shape : Entry → Entry
  | file _ => file .empty
  | dir children => dir (shapeOfAll children)
  | link target => link target

/-- Entries of a directory without what their files hold. -/
def shapeOfAll : List (String × Entry) → List (String × Entry)
  | [] => []
  | (name, e) :: rest => (name, shape e) :: shapeOfAll rest
end

@[simp] theorem shape_file (bytes : ByteArray) : (file bytes).shape = file .empty := rfl

@[simp] theorem shape_dir (children : List (String × Entry)) :
    (dir children).shape = dir (shapeOfAll children) := rfl

@[simp] theorem shape_link (target : String) : (link target).shape = link target := rfl

/-- `shapeOfAll` keeps the names and their order, and takes the `shape` of each entry. -/
theorem shapeOfAll_eq_map (children : List (String × Entry)) :
    shapeOfAll children = children.map fun c => (c.1, c.2.shape) := by
  induction children with
  | nil => rfl
  | cons c rest ih => rw [shapeOfAll, ih, List.map_cons]

/-- Looking up a name in the shapes finds the shape of what is found otherwise. -/
@[simp] theorem lookup_shapeOfAll (name : String) (children : List (String × Entry)) :
    (shapeOfAll children).lookup name = (children.lookup name).map shape := by
  induction children with
  | nil => rfl
  | cons c rest ih =>
    rw [shapeOfAll, List.lookup_cons, List.lookup_cons, ih]
    cases name == c.1 <;> rfl

/-- A child of a shape is the shape of the child. -/
theorem child?_shape (name : String) (e : Entry) :
    e.shape.child? name = (e.child? name).map shape := by
  cases e with
  | dir children => rw [shape, child?, child?, lookup_shapeOfAll]
  | _ => rfl

/-- What stands at a place in a shape is the shape of what stands there otherwise. -/
@[simp] theorem at?_shape (names : List String) (e : Entry) :
    e.shape.at? names = (e.at? names).map shape := by
  induction names generalizing e with
  | nil => rfl
  | cons name names ih =>
    rw [at?, at?, child?_shape]
    cases e.child? name with
    | none => rfl
    | some c => exact ih c

mutual
/-- `Entry.shape` keeps the height of an entry. -/
theorem height_shape : ∀ e : Entry, e.shape.height = e.height
  | file _ => rfl
  | dir children => by rw [shape, height, height, heightOfAll_shapeOfAll children]
  | link _ => rfl

/-- `Entry.shapeOfAll` keeps the height of the entries. -/
theorem heightOfAll_shapeOfAll :
    ∀ children : List (String × Entry), heightOfAll (shapeOfAll children) = heightOfAll children
  | [] => rfl
  | (_, e) :: rest => by
    rw [shapeOfAll, heightOfAll, heightOfAll, height_shape e, heightOfAll_shapeOfAll rest]
end

end Entry

namespace FileTree

/-- Where names lead depends on the shape only. -/
theorem walk_shape (root : Entry) (followLast : Bool) (links : Nat) (here ns : List String) :
    walk root.shape followLast links here ns = walk root followLast links here ns := by
  -- a walk only asks whether an entry is a directory or a link, which its shape tells as well
  induction links, here, ns using walk.induct root followLast with
  | case1 => rw [walk, walk]
  | case2 links here name rest children hhere hup ih => simp [walk, hhere, hup, ih]
  | case3 links here name rest children hhere hup hnone => simp [walk, hhere, hup, hnone]
  | case4 links here name rest children hhere hup target hlink hlast =>
    simp [walk, hhere, hup, hlink, hlast]
  | case5 here name rest children hhere hup target hlink hlast =>
    simp [walk, hhere, hup, hlink, hlast]
  | case6 here name rest children hhere hup target hlink hlast links ih =>
    simpa [walk, hhere, hup, hlink, hlast] using ih
  | case7 links here name rest children hhere hup e hne he ih =>
    cases e with
    | link target => exact absurd rfl (hne target)
    | _ => simp [walk, hhere, hup, he, ih]
  | case8 links here name rest e hne hhere =>
    cases e with
    | dir children => exact absurd rfl (hne children)
    | _ => simp [walk, hhere]
  | case9 links here name rest hnone => simp [walk, hnone]

/-- The shape of all files. Nothing is locked. -/
def shape (t : FileTree) : FileTree :=
  { root := t.root.shape, workDir := t.workDir, unnamed := t.unnamed }

/-- Resolving a path never looks into files. -/
theorem resolve_shape (t : FileTree) (path : String) : t.shape.resolve path = t.resolve path := by
  simp only [resolve, shape, base, walk_shape, Entry.at?_shape]
  cases walk t.root true maxLinks (if isAbsolute path then [] else t.workDir) (names path) with
  | error e => rfl
  | ok place =>
    simp only [bind, Except.bind]
    cases t.root.at? place with
    | none => rfl
    | some e => cases e <;> rfl

/-- The entry at a path in the shape of a tree is the shape of the entry there. -/
theorem entry_shape (t : FileTree) (path : String) :
    t.shape.entry path = (t.entry path).map Entry.shape := by
  simp only [entry, resolve_shape]
  cases t.resolve path with
  | error e => rfl
  | ok place =>
    simp only [bind, Except.bind, shape, Entry.at?_shape]
    cases t.root.at? place <;> rfl

/-- Whether there is a file at a path does not depend on what files hold. -/
theorem isFile_shape (t : FileTree) (path : String) : t.shape.isFile path = t.isFile path := by
  rw [isFile, isFile, entry_shape]
  cases t.entry path with
  | error e => rfl
  | ok e => cases e <;> rfl

/-- Whether there is a directory at a path does not depend on what files hold. -/
theorem isDir_shape (t : FileTree) (path : String) : t.shape.isDir path = t.isDir path := by
  rw [isDir, isDir, entry_shape]
  cases t.entry path with
  | error e => rfl
  | ok e => cases e <;> rfl

/-! ## Trees that differ in some files -/

/-- **Two trees that differ in some files**, in what these hold or in whether they may be read. -/
structure SameBut (differs : List String → Prop) (t t' : FileTree) : Prop where
  shape : t'.shape = t.shape
  contents : ∀ place, ¬ differs place → ∀ bytes,
    t'.root.at? place = some (.file bytes) ↔ t.root.at? place = some (.file bytes)
  locked : ∀ place, ¬ differs place → (place ∈ t'.locked ↔ place ∈ t.locked)

/-- Whether a path leads to none of some files. -/
def Avoids (t : FileTree) (differs : List String → Prop) (path : String) : Prop :=
  ∀ place, t.resolve path = .ok place → ¬ differs place

variable {differs : List String → Prop} {t t' : FileTree}

namespace SameBut

/-- Trees that are `SameBut` for some files resolve paths in the same way. -/
theorem resolve (h : SameBut differs t t') (path : String) : t'.resolve path = t.resolve path := by
  rw [← resolve_shape, h.shape, resolve_shape]

/-- What files hold does not change which places can be told. -/
theorem canonicalize (h : SameBut differs t t') (path : String) :
    t'.canonicalize path = t.canonicalize path := by
  have hunnamed : t'.shape.unnamed = t.shape.unnamed := by rw [h.shape]
  simp only [FileTree.shape] at hunnamed
  rw [FileTree.canonicalize, FileTree.canonicalize, h.resolve, hunnamed]

/-- Trees that are `SameBut` for some files have files at the same paths. -/
theorem isFile (h : SameBut differs t t') (path : String) : t'.isFile path = t.isFile path := by
  rw [← isFile_shape, h.shape, isFile_shape]

/-- Trees that are `SameBut` for some files have directories at the same paths. -/
theorem isDir (h : SameBut differs t t') (path : String) : t'.isDir path = t.isDir path := by
  rw [← isDir_shape, h.shape, isDir_shape]

/-- Other files read the same. -/
theorem read (h : SameBut differs t t') {path : String} (hpath : t.Avoids differs path) :
    t'.read path = t.read path := by
  rw [FileTree.read, FileTree.read, h.resolve]
  cases hplace : t.resolve path with
  | error e => rfl
  | ok place =>
    have hother : ¬ differs place := hpath place hplace
    have hshape : (t'.root.at? place).map Entry.shape = (t.root.at? place).map Entry.shape := by
      rw [← Entry.at?_shape, ← Entry.at?_shape]
      exact congrArg (fun t : FileTree => t.root.at? place) h.shape
    have hlocked : t'.locked.contains place = t.locked.contains place := by
      rw [Bool.eq_iff_iff, List.contains_iff_mem, List.contains_iff_mem, h.locked place hother]
    simp only [bind, Except.bind]
    -- an entry of the same shape is of the same kind, and a file that does not differ is the same
    cases he : t.root.at? place with
    | none =>
      rw [he] at hshape
      rw [Option.map_eq_none_iff.1 hshape]
    | some e =>
      rw [he] at hshape
      obtain ⟨e', he', heq⟩ := Option.map_eq_some_iff.1 hshape
      cases e with
      | file bytes => rw [(h.contents place hother bytes).2 he, hlocked]
      | dir children =>
        rw [he']
        cases e' with
        | dir children' => rfl
        | _ => cases heq
      | link target =>
        rw [he']
        cases e' with
        | link target' => rfl
        | _ => cases heq

end SameBut

end FileTree

/-! ## Walks -/

/-- Whether a file is one of those in which ignore rules are looked for. -/
def Locator.Consults (l : Locator) (t : FileTree) (f : List String) : Prop :=
  l.ignoring ∧
    ((∃ dir, ∃ name ∈ [[".ignore"], [".gitignore"], [".git", "info", "exclude"]],
        t.resolve (FileTree.absolute (dir ++ name)) = .ok f) ∨
      ∃ home, l.home = some home ∧
        ∃ path ∈ [home ++ "/.gitconfig", home ++ "/.config/git/config", UserIgnore.path t home],
          t.resolve path = .ok f)

namespace FileTree.SameBut

variable {differs : List String → Prop} {t t' : FileTree} (h : SameBut differs t t')
include h

/-- The rules of a directory are the same if they are not in files that differ. -/
theorem dirRules {dir : List String}
    (hpath : ∀ name ∈ [[".ignore"], [".gitignore"], [".git", "info", "exclude"]],
      t.Avoids differs (absolute (dir ++ name))) :
    DirRules.ofDir t' dir = DirRules.ofDir t dir := by
  have hload : ∀ name ∈ [[".ignore"], [".gitignore"], [".git", "info", "exclude"]],
      DirRules.load t' dir name = DirRules.load t dir name := fun name hname => by
    rw [DirRules.load, DirRules.load, h.read (hpath name hname)]
  simp only [DirRules.ofDir]
  rw [hload _ (by simp), hload _ (by simp), hload _ (by simp)]

/-- The rules of the user are the same if neither they nor the settings that name them are in files
that differ. -/
theorem userRules {home : Option String}
    (havoids : ∀ user, home = some user →
      ∀ path ∈ [user ++ "/.gitconfig", user ++ "/.config/git/config", UserIgnore.path t user],
        t.Avoids differs path) : UserIgnore.load t' home = UserIgnore.load t home := by
  cases home with
  | none => rfl
  | some user =>
    have hread := fun path hpath => h.read (havoids user rfl path hpath)
    have hpath : UserIgnore.path t' user = UserIgnore.path t user := by
      simp only [UserIgnore.path, UserIgnore.namedBy?]
      rw [hread _ (by simp), hread _ (by simp)]
    have hworkDir : t'.shape.workDir = t.shape.workDir := by rw [h.shape]
    simp only [UserIgnore.load, hpath, bind, Option.bind]
    rw [hread _ (by simp), show t'.workDir = t.workDir from hworkDir]

end FileTree.SameBut

namespace Locator

/-- Whether entries are visited, and in which order, depends on their shapes. -/
theorem placesIn_shapeOfAll (l : Locator) (below : IgnoreRules → List String → List (List String))
    (rules : IgnoreRules) (dir : List String) (entries : List (String × Entry)) :
    placesIn l below rules dir (Entry.shapeOfAll entries) = placesIn l below rules dir entries := by
  induction entries with
  | nil => rfl
  | cons entry rest ih =>
    obtain ⟨name, e⟩ := entry
    simp only [Entry.shapeOfAll, placesIn, ih]
    cases e <;> rfl

/-- The entries of a directory are put in the same order by their names, whatever files hold. -/
theorem sorted_shapeOfAll (children : List (String × Entry)) :
    sorted (Entry.shapeOfAll children) = Entry.shapeOfAll (sorted children) := by
  rw [Entry.shapeOfAll_eq_map, Entry.shapeOfAll_eq_map, sorted, sorted, List.map_mergeSort]
  exact fun _ _ _ _ => rfl

/-- One level of a walk reads nothing of directories but their `shape`; the ignore rules are another
matter. -/
theorem placesBelow_succ_shape (l : Locator) (t : FileTree) (depth : Nat) (rules : IgnoreRules)
    (dir : List String) :
    placesBelow l t (depth + 1) rules dir
      = match t.shape.entry (FileTree.absolute dir) with
        | .ok (.dir children) =>
          placesIn l (placesBelow l t depth) (l.enter t rules dir) dir (sorted children)
        | _ => [] := by
  rw [placesBelow, FileTree.entry_shape]
  cases t.entry (FileTree.absolute dir) with
  | error e => rfl
  | ok e =>
    cases e with
    | dir children => simp only [Except.map, Entry.shape, sorted_shapeOfAll, placesIn_shapeOfAll]
    | _ => rfl

variable {l : Locator} {differs : List String → Prop} {t t' : FileTree}

/-- **Each level of a walk** visits the same places, if the rules are the same. -/
theorem placesBelow_congr (hshape : t'.shape = t.shape)
    (henter : ∀ rules dir, l.enter t' rules dir = l.enter t rules dir) (depth : Nat)
    (rules : IgnoreRules) (dir : List String) :
    placesBelow l t' depth rules dir = placesBelow l t depth rules dir := by
  induction depth generalizing rules dir with
  | zero => rfl
  | succ depth ih =>
    have hbelow : placesBelow l t' depth = placesBelow l t depth :=
      funext fun rules => funext fun dir => ih rules dir
    rw [placesBelow_succ_shape, placesBelow_succ_shape, hshape, hbelow, henter]

/-- **A walk visits the same places** whatever files hold that are not consulted for ignore
rules. -/
theorem places_congr (h : t.SameBut differs t') (hconsults : ∀ f, differs f → ¬ l.Consults t f) :
    l.places t' = l.places t := by
  have hdir : l.ignoring → ∀ dir, DirRules.ofDir t' dir = DirRules.ofDir t dir :=
    fun hignoring dir => h.dirRules fun name hname f hf hdiffers =>
      hconsults f hdiffers ⟨hignoring, .inl ⟨dir, name, hname, hf⟩⟩
  have henter : ∀ rules dir, l.enter t' rules dir = l.enter t rules dir := fun rules dir => by
    rw [enter, enter]
    split
    · next hignoring => rw [hdir hignoring]
    · rfl
  have houter : l.outerRules t' = l.outerRules t := by
    rw [outerRules, outerRules]
    split
    · next hignoring =>
      rw [funext (hdir hignoring), h.userRules fun user huser path hpath f hf hdiffers =>
        hconsults f hdiffers ⟨hignoring, .inr ⟨user, huser, path, hpath, hf⟩⟩]
    · rfl
  have hheight : t'.root.height = t.root.height := by
    rw [← Entry.height_shape, ← Entry.height_shape t.root]
    exact congrArg (fun t : FileTree => t.root.height) h.shape
  rw [places, places, houter, hheight, placesBelow_congr h.shape henter]

/-- What files hold does not change whether a path has a locator. -/
theorem ofPath_congr (h : t.SameBut differs t') (path : String) (extensions : List String)
    (ignoring : Bool) (home : Option String) :
    ofPath t' path extensions ignoring home = ofPath t path extensions ignoring home := by
  rw [ofPath, ofPath, h.canonicalize, h.isDir]

end Locator

end CodeGraph
