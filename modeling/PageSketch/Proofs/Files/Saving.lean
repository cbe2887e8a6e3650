import PageSketch.Files.Tree
import PageSketch.Proofs.Outcome

/-!
# What saving changes

A tree that keeps the directories of another one leads the same paths to the same places. Saving a
file makes directories where nothing was and sets one file; afterwards its path leads to the place
that was set, and saving there works again, whatever the contents are. Files that are saved one
after another change the files at their own places and no others.
-/

namespace PageSketch.FileTree

variable {tree tree' tree'' : FileTree} {current start location other : Location} {path : Path}
  {contents : ByteArray}

/-! ## Keeping directories -/

/-- Whether every directory of a tree is one of another tree. -/
def KeepsDirectories (tree tree' : FileTree) : Prop :=
  ∀ location, tree.lookup location = some .directory → tree'.lookup location = some .directory

/-- A tree keeps its own directories. -/
theorem KeepsDirectories.refl (tree : FileTree) : KeepsDirectories tree tree := fun _ h => h

/-- Keeping directories twice keeps them. -/
theorem KeepsDirectories.trans (h : KeepsDirectories tree tree')
    (h' : KeepsDirectories tree' tree'') : KeepsDirectories tree tree'' :=
  fun location hdirectory => h' location (h location hdirectory)

/-- The root is a directory. -/
@[simp] theorem lookup_root (tree : FileTree) : tree.lookup [] = some .directory := rfl

/-- A directory is what is looked up as one. -/
theorem isDirectory_iff : tree.isDirectory location = true ↔ tree.lookup location = some .directory := by
  rw [isDirectory]
  cases tree.lookup location with
  | none => simp
  | some entry => cases entry <;> simp

/-- Setting an entry elsewhere than at a directory keeps the directories. -/
theorem keepsDirectories_withEntry (h : tree.lookup location ≠ some .directory) (entry : FileEntry) :
    KeepsDirectories tree (tree.withEntry location entry) := by
  intro other hother
  have hne : other ≠ location := fun heq => h (heq ▸ hother)
  rwa [lookup_withEntry_of_ne tree hne]

/-- An entry that was set elsewhere than at a directory is there. -/
theorem lookup_withEntry (h : tree.lookup location ≠ some .directory) (entry : FileEntry) :
    (tree.withEntry location entry).lookup location = some entry := by
  refine lookup_withEntry_self tree (fun hroot => h ?_) entry
  rw [hroot, lookup_root]

/-- A step leads where it led before. -/
theorem KeepsDirectories.step (h : KeepsDirectories tree tree') {name : String}
    (hstep : tree.step start name = .ok location) : tree'.step start name = .ok location := by
  rw [FileTree.step] at hstep ⊢
  cases hstart : tree.lookup start with
  | none => simp [hstart] at hstep
  | some entry =>
    cases entry with
    | file contents => simp [hstart] at hstep
    | directory =>
      rw [hstart] at hstep
      rw [h start hstart]
      exact hstep

/-- Names lead where they led before. -/
theorem KeepsDirectories.follow (h : KeepsDirectories tree tree') {names : List String}
    (hfollow : tree.follow start names = .ok location) :
    tree'.follow start names = .ok location := by
  induction names generalizing start with
  | nil => exact hfollow
  | cons name names ih =>
    rw [FileTree.follow] at hfollow ⊢
    split at hfollow
    · rename_i next hnext
      rw [h.step hnext]
      exact ih hfollow
    · cases hfollow

/-- Names that led to a directory lead to one. -/
theorem KeepsDirectories.leadsToDirectory (h : KeepsDirectories tree tree') {names : List String}
    (hleads : tree.leadsToDirectory start names = true) :
    tree'.leadsToDirectory start names = true := by
  rw [FileTree.leadsToDirectory] at hleads ⊢
  split at hleads
  · rename_i location hlocation
    rw [h.follow hlocation]
    exact isDirectory_iff.mpr (h location (isDirectory_iff.mp hleads))
  · cases hleads

/-- Following one more name is a step from where the others lead. -/
theorem follow_concat (tree : FileTree) (start : Location) (names : List String) (name : String) :
    tree.follow start (names ++ [name]) =
      match tree.follow start names with
      | .ok directory => tree.step directory name
      | .error fault => .error fault := by
  induction names generalizing start with
  | nil =>
    simp only [List.nil_append, FileTree.follow]
    cases tree.step start name <;> rfl
  | cons first rest ih =>
    simp only [List.cons_append, FileTree.follow]
    cases tree.step start first with
    | error fault => rfl
    | ok next => exact ih next

/-- What is to be made is where the names lead. -/
theorem followToMake_eq_follow (tree : FileTree) (start : Location) (names : List String) :
    tree.followToMake start names = tree.follow start names.reverse := by
  cases names with
  | nil => rfl
  | cons name outer =>
    rw [List.reverse_cons]
    exact (follow_concat tree start outer.reverse name).symm

/-! ## Making directories -/

/-- Whether a tree is another one with directories where nothing was. -/
def Grows (tree tree' : FileTree) : Prop :=
  ∀ location, tree'.lookup location = tree.lookup location ∨
    tree.lookup location = none ∧ tree'.lookup location = some .directory

/-- A tree grows into itself. -/
theorem Grows.refl (tree : FileTree) : Grows tree tree := fun _ => .inl rfl

/-- Growing twice is growing. -/
theorem Grows.trans (h : Grows tree tree') (h' : Grows tree' tree'') : Grows tree tree'' := by
  intro location
  rcases h location with hsame | ⟨hnone, hnew⟩
  · rw [← hsame]
    exact h' location
  · rcases h' location with hsame' | ⟨hnone', -⟩
    · exact .inr ⟨hnone, hsame'.trans hnew⟩
    · rw [hnew] at hnone'
      cases hnone'

/-- Growing keeps the directories. -/
theorem Grows.keepsDirectories (h : Grows tree tree') : KeepsDirectories tree tree' := by
  intro location hdirectory
  rcases h location with hsame | ⟨hnone, -⟩
  · rwa [hsame]
  · rw [hdirectory] at hnone
    cases hnone

/-- Setting a directory where nothing was is growing. -/
theorem grows_withEntry (h : tree.lookup location = none) :
    Grows tree (tree.withEntry location .directory) := by
  intro other
  by_cases hother : other = location
  · subst hother
    exact .inr ⟨h, lookup_withEntry (by simp [h]) .directory⟩
  · exact .inl (lookup_withEntry_of_ne tree hother .directory)

/-- Making a directory grows the tree, and if it works, the names lead to a directory. -/
theorem makeDirectory_spec (tree : FileTree) (start : Location) (names : List String) :
    Grows tree (tree.makeDirectory start names).2 ∧
      ((tree.makeDirectory start names).1 = .ok () →
        (tree.makeDirectory start names).2.leadsToDirectory start names = true) := by
  rw [makeDirectory, followToMake_eq_follow]
  cases hfollow : tree.follow start names.reverse with
  | error fault => exact ⟨.refl tree, fun h => by cases h⟩
  | ok location =>
    simp only
    cases hlookup : tree.lookup location with
    | some entry => exact ⟨.refl tree, fun h => by cases h⟩
    | none =>
      have hgrows := grows_withEntry hlookup
      refine ⟨hgrows, fun _ => ?_⟩
      simp only [FileTree.leadsToDirectory, hgrows.keepsDirectories.follow hfollow]
      exact isDirectory_iff.mpr (lookup_withEntry (by simp [hlookup]) .directory)

/-- What is accepted as present is the same tree, and it leads to a directory if it should. -/
theorem orPresent_spec {names : List String} {changed : Changed}
    (h : changed.1 = .ok () → changed.2.leadsToDirectory start names = true) :
    (orPresent start names changed).2 = changed.2 ∧
      ((orPresent start names changed).1 = .ok () →
        changed.2.leadsToDirectory start names = true) := by
  obtain ⟨result, tree⟩ := changed
  cases result with
  | ok _ => exact ⟨rfl, fun _ => h rfl⟩
  | error fault =>
    rw [orPresent]
    split
    · rename_i hleads
      exact ⟨rfl, fun _ => hleads⟩
    · exact ⟨rfl, fun h => by cases h⟩

/-- Making directories grows the tree, and if it works, the names lead to a directory. -/
theorem makeDirectories_spec (tree : FileTree) (start : Location) (names : List String) :
    Grows tree (tree.makeDirectories start names).2 ∧
      ((tree.makeDirectories start names).1 = .ok () →
        names = [] ∨ (tree.makeDirectories start names).2.leadsToDirectory start names = true) := by
  induction names with
  | nil => exact ⟨.refl tree, fun _ => .inl rfl⟩
  | cons name outer ih =>
    rw [makeDirectories]
    split
    · split
      · rename_i fault tree' houter
        rw [houter] at ih
        exact ⟨ih.1, fun h => by cases h⟩
      · rename_i tree' houter
        rw [houter] at ih
        obtain ⟨hgrows, hleads⟩ := makeDirectory_spec tree' start (name :: outer)
        obtain ⟨htree, hpresent⟩ := orPresent_spec hleads
        rw [htree]
        exact ⟨ih.1.trans hgrows, fun h => .inr (hpresent h)⟩
    · obtain ⟨hgrows, hleads⟩ := makeDirectory_spec tree start (name :: outer)
      obtain ⟨htree, hpresent⟩ := orPresent_spec hleads
      rw [htree]
      exact ⟨hgrows, fun h => .inr (hpresent h)⟩

/-- Directories that are there need not be made. -/
theorem makeDirectories_of_leadsToDirectory {names : List String}
    (h : names = [] ∨ tree.leadsToDirectory start names = true) :
    tree.makeDirectories start names = (.ok (), tree) := by
  cases names with
  | nil => rfl
  | cons name outer =>
    have hleads : tree.leadsToDirectory start (name :: outer) = true := by simpa using h
    have hmake : tree.makeDirectory start (name :: outer) = (.error .alreadyExists, tree) := by
      have hleads' := hleads
      rw [FileTree.leadsToDirectory] at hleads'
      split at hleads'
      · rename_i location hlocation
        simp only [makeDirectory, followToMake_eq_follow, hlocation,
          isDirectory_iff.mp hleads']
      · cases hleads'
    rw [makeDirectories, hmake]
    simp only [orPresent, hleads, if_true]

/-! ## Saving one file -/

/-- Where a path leads. -/
def place (tree : FileTree) (current : Location) (path : Path) : Except FileFault Location :=
  tree.follow (startOf current path) path.names

/-- The contents of the file at a location. -/
def fileAt? (tree : FileTree) (location : Location) : Option ByteArray :=
  match tree.lookup location with
  | some (.file contents) => some contents
  | some .directory => none
  | none => none

/-- The contents of a file are what is looked up as a file. -/
theorem fileAt?_eq_some_iff :
    tree.fileAt? location = some contents ↔ tree.lookup location = some (.file contents) := by
  rw [fileAt?]
  cases tree.lookup location with
  | none => simp
  | some entry => cases entry <;> simp

/-- A path that leads to a file names it, if it is sound and does not ask for a directory. -/
theorem entryOf_of_place (hpath : pathFault? path = none) (hslash : path.endsInSlash = false)
    (hplace : tree.place current path = .ok location)
    (hfile : tree.fileAt? location = some contents) :
    tree.entryOf current path = .ok (.file contents) := by
  have hfollow : tree.follow (startOf current path) path.names = .ok location := hplace
  simp [entryOf, hpath, hfollow, fileAt?_eq_some_iff.mp hfile, hslash]

/-- Whether a tree comes from another one by saving a file at a location: the path leads there, past
directories that are there, the file has the contents, and everywhere else there is what was there,
or a directory where nothing was. -/
structure Saved (tree tree' : FileTree) (current : Location) (path : Path) (contents : ByteArray)
    (location : Location) : Prop where
  pathFault?_eq : pathFault? path = none
  textFault?_eq : textFault? path.parentText = none
  endsInSlash_eq : path.endsInSlash = false
  place_eq : tree'.place current path = .ok location
  parents : path.parentNames.reverse = [] ∨
    tree'.leadsToDirectory (startOf current path) path.parentNames.reverse = true
  lookup_eq : tree'.lookup location = some (.file contents)
  elsewhere : ∀ other, other ≠ location → tree'.lookup other = tree.lookup other ∨
    tree.lookup other = none ∧ tree'.lookup other = some .directory
  notDirectory : tree.lookup location ≠ some .directory

/-- A file is written where its path leads, if no directory is there. -/
theorem writeFile_eq_ok_iff :
    tree.writeFile current path contents = (.ok (), tree') ↔
      ∃ location, pathFault? path = none ∧ tree.place current path = .ok location ∧
        path.endsInSlash = false ∧ tree.lookup location ≠ some .directory ∧
        tree.withEntry location (.file contents) = tree' := by
  rw [writeFile, followToMake_eq_follow, List.reverse_reverse, place]
  cases pathFault? path with
  | some fault => simp
  | none =>
    cases tree.follow (startOf current path) path.names with
    | error fault => simp
    | ok location =>
      have hdirectory : tree.lookup location = some .directory ↔ tree.isDirectory location = true :=
        isDirectory_iff.symm
      simp only [Except.ok.injEq, exists_eq_left', true_and, ne_eq, hdirectory]
      cases path.endsInSlash <;> cases tree.isDirectory location <;> simp

/-- The directories above a path are made when its text is sound and they can be made. -/
theorem makeParents_eq_ok_iff :
    tree.makeParents current path = (.ok (), tree') ↔
      textFault? path.parentText = none ∧
        tree.makeDirectories (startOf current path) path.parentNames.reverse = (.ok (), tree') := by
  rw [makeParents]
  cases textFault? path.parentText <;> simp

/-- A file is saved when the directories above it are made and it is written. -/
theorem save_eq_ok_iff :
    tree.save current path contents = (.ok (), tree') ↔
      ∃ made, tree.makeParents current path = (.ok (), made) ∧
        made.writeFile current path contents = (.ok (), tree') := by
  rw [save]
  rcases tree.makeParents current path with ⟨result, made⟩
  cases result <;> simp

/-- A file is saved in a directory that is there. -/
theorem save_of_place (hpath : pathFault? path = none) (htext : textFault? path.parentText = none)
    (hparents : path.parentNames = []) (hslash : path.endsInSlash = false)
    (hplace : tree.place current path = .ok location)
    (hlookup : tree.lookup location ≠ some .directory) :
    tree.save current path contents = (.ok (), tree.withEntry location (.file contents)) := by
  refine save_eq_ok_iff.mpr ⟨tree, ?_, ?_⟩
  · refine makeParents_eq_ok_iff.mpr ⟨htext, ?_⟩
    rw [hparents]
    rfl
  · exact writeFile_eq_ok_iff.mpr ⟨location, hpath, hplace, hslash, hlookup, rfl⟩

/-- Saving a file does what it says. -/
theorem exists_saved (h : tree.save current path contents = (.ok (), tree')) :
    ∃ location, Saved tree tree' current path contents location := by
  obtain ⟨made, hmake, hwrite⟩ := save_eq_ok_iff.mp h
  obtain ⟨htext, hmake⟩ := makeParents_eq_ok_iff.mp hmake
  obtain ⟨location, hpath, hplace, hslash, hlookup, rfl⟩ := writeFile_eq_ok_iff.mp hwrite
  obtain ⟨hgrows, hleads⟩ :=
    makeDirectories_spec tree (startOf current path) path.parentNames.reverse
  rw [hmake] at hgrows hleads
  have hkeeps := keepsDirectories_withEntry hlookup (.file contents)
  refine ⟨location, hpath, htext, hslash, hkeeps.follow hplace,
    (hleads rfl).imp_right hkeeps.leadsToDirectory, lookup_withEntry hlookup _, ?_,
    fun hdirectory => hlookup (hgrows.keepsDirectories location hdirectory)⟩
  intro other hother
  rw [lookup_withEntry_of_ne made hother]
  exact hgrows other

namespace Saved

variable (h : Saved tree tree' current path contents location)

include h

/-- Saving keeps the directories. -/
theorem keepsDirectories : KeepsDirectories tree tree' := by
  intro other hother
  have hne : other ≠ location := fun heq => h.notDirectory (heq ▸ hother)
  rcases h.elsewhere other hne with hsame | ⟨hnone, -⟩
  · rwa [hsame]
  · rw [hother] at hnone
    cases hnone

/-- The file is at its location. -/
theorem fileAt?_self : tree'.fileAt? location = some contents :=
  fileAt?_eq_some_iff.mpr h.lookup_eq

/-- The path names the file. -/
theorem entryOf_eq : tree'.entryOf current path = .ok (.file contents) :=
  entryOf_of_place h.pathFault?_eq h.endsInSlash_eq h.place_eq h.fileAt?_self

/-- The path names something. -/
theorem hasEntry_eq : tree'.hasEntry current path = .ok true := by
  rw [hasEntry, h.entryOf_eq]

/-- The other files stay as they are. -/
theorem fileAt?_of_ne (hother : other ≠ location) : tree'.fileAt? other = tree.fileAt? other := by
  rw [fileAt?, fileAt?]
  rcases h.elsewhere other hother with hsame | ⟨hnone, hnew⟩
  · rw [hsame]
  · rw [hnone, hnew]

/-- Another file can be saved in its place. -/
theorem save_again (others : ByteArray) :
    ∃ tree'', tree'.save current path others = (.ok (), tree'') := by
  have hlookup : tree'.lookup location ≠ some .directory := by
    rw [h.lookup_eq]
    simp
  refine ⟨tree'.withEntry location (.file others), save_eq_ok_iff.mpr ⟨tree', ?_, ?_⟩⟩
  · exact makeParents_eq_ok_iff.mpr
      ⟨h.textFault?_eq, makeDirectories_of_leadsToDirectory h.parents⟩
  · exact writeFile_eq_ok_iff.mpr
      ⟨location, h.pathFault?_eq, h.place_eq, h.endsInSlash_eq, hlookup, rfl⟩

end Saved

/-- A text that was saved reads back. -/
theorem Saved.readText_eq {text : String}
    (h : Saved tree tree' current path text.toUTF8 location) :
    tree'.readText current path = .ok text :=
  readText_of_entryOf h.entryOf_eq

/-- Whether a file can be saved does not depend on its contents. -/
theorem exists_save_iff (tree : FileTree) (current : Location) (path : Path)
    (contents others : ByteArray) :
    (∃ tree', tree.save current path contents = (.ok (), tree')) ↔
      ∃ tree', tree.save current path others = (.ok (), tree') := by
  simp only [save_eq_ok_iff, writeFile_eq_ok_iff]
  constructor
  · rintro ⟨_, made, hmade, location, hpath, hplace, hslash, hlookup, -⟩
    exact ⟨_, made, hmade, location, hpath, hplace, hslash, hlookup, rfl⟩
  · rintro ⟨_, made, hmade, location, hpath, hplace, hslash, hlookup, -⟩
    exact ⟨_, made, hmade, location, hpath, hplace, hslash, hlookup, rfl⟩

/-! ## Saving several files -/

/-- Saves texts one after another, up to the first that cannot be saved. -/
def saveAll (tree : FileTree) (current : Location) : List (Path × String) → Changed
  | [] => (.ok (), tree)
  | (path, text) :: rest =>
    match tree.save current path text.toUTF8 with
    | (.ok (), tree') => tree'.saveAll current rest
    | (.error fault, tree') => (.error fault, tree')

/-- A first text and others are saved when it is and they are. -/
theorem saveAll_cons_eq_ok_iff {text : String} {rest : List (Path × String)} :
    tree.saveAll current ((path, text) :: rest) = (.ok (), tree') ↔
      ∃ saved, tree.save current path text.toUTF8 = (.ok (), saved) ∧
        saved.saveAll current rest = (.ok (), tree') := by
  rw [saveAll]
  rcases tree.save current path text.toUTF8 with ⟨result, saved⟩
  cases result <;> simp

/-- Texts are saved when the first ones are, and then the others. -/
theorem saveAll_append_eq_ok_iff {before after : List (Path × String)} :
    tree.saveAll current (before ++ after) = (.ok (), tree') ↔
      ∃ saved, tree.saveAll current before = (.ok (), saved) ∧
        saved.saveAll current after = (.ok (), tree') := by
  induction before generalizing tree with
  | nil => simp [saveAll]
  | cons write before ih =>
    obtain ⟨path, text⟩ := write
    simp only [List.cons_append, saveAll_cons_eq_ok_iff, ih]
    constructor
    · rintro ⟨first, hfirst, saved, hbefore, hafter⟩
      exact ⟨saved, ⟨first, hfirst, hbefore⟩, hafter⟩
    · rintro ⟨saved, ⟨first, hfirst, hbefore⟩, hafter⟩
      exact ⟨first, hfirst, saved, hbefore, hafter⟩

/-- Saving texts keeps the directories. -/
theorem keepsDirectories_saveAll {writes : List (Path × String)}
    (h : tree.saveAll current writes = (.ok (), tree')) : KeepsDirectories tree tree' := by
  induction writes generalizing tree with
  | nil =>
    obtain ⟨-, rfl⟩ := Prod.mk.inj h
    exact .refl tree
  | cons write rest ih =>
    obtain ⟨saved, hsave, hrest⟩ := saveAll_cons_eq_ok_iff.mp h
    obtain ⟨location, hsaved⟩ := exists_saved hsave
    exact hsaved.keepsDirectories.trans (ih hrest)

/-- Only the files at the places of the paths change. -/
theorem fileAt?_saveAll {writes : List (Path × String)}
    (h : tree.saveAll current writes = (.ok (), tree')) {location : Location}
    (hlocation : ∀ write ∈ writes, tree'.place current write.1 ≠ .ok location) :
    tree'.fileAt? location = tree.fileAt? location := by
  induction writes generalizing tree with
  | nil =>
    obtain ⟨-, rfl⟩ := Prod.mk.inj h
    rfl
  | cons write rest ih =>
    obtain ⟨saved, hsave, hrest⟩ := saveAll_cons_eq_ok_iff.mp h
    obtain ⟨place, hsaved⟩ := exists_saved hsave
    rw [ih hrest fun other hother => hlocation other (List.mem_cons_of_mem _ hother)]
    refine hsaved.fileAt?_of_ne fun heq => hlocation write List.mem_cons_self ?_
    rw [heq]
    exact (keepsDirectories_saveAll hrest).follow hsaved.place_eq

/-- A text reads back when no other one is saved in its place afterwards. -/
theorem readText_saveAll {before after : List (Path × String)} {text : String}
    (h : tree.saveAll current (before ++ (path, text) :: after) = (.ok (), tree'))
    (hafter : ∀ write ∈ after, tree'.place current write.1 ≠ tree'.place current path) :
    tree'.readText current path = .ok text := by
  obtain ⟨made, -, hrest⟩ := saveAll_append_eq_ok_iff.mp h
  obtain ⟨saved, hsave, hrest⟩ := saveAll_cons_eq_ok_iff.mp hrest
  obtain ⟨location, hsaved⟩ := exists_saved hsave
  have hplace : tree'.place current path = .ok location :=
    (keepsDirectories_saveAll hrest).follow hsaved.place_eq
  have hfile : tree'.fileAt? location = some text.toUTF8 := by
    rw [← hsaved.fileAt?_self]
    refine fileAt?_saveAll hrest fun write hwrite => ?_
    rw [← hplace]
    exact hafter write hwrite
  exact readText_of_entryOf
    (entryOf_of_place hsaved.pathFault?_eq hsaved.endsInSlash_eq hplace hfile)

/-- Whether a tree comes from another one by saving texts: only the files at their places may have
changed, and paths that lead to different places hold their texts. -/
structure SavedAll (tree tree' : FileTree) (current : Location) (writes : List (Path × String)) :
    Prop where
  others : ∀ location, (∀ write ∈ writes, tree'.place current write.1 ≠ .ok location) →
    tree'.fileAt? location = tree.fileAt? location
  texts : (writes.Pairwise fun write later =>
      tree'.place current later.1 ≠ tree'.place current write.1) →
    ∀ write ∈ writes, tree'.readText current write.1 = .ok write.2

/-- Saving texts one after another does what it says. -/
theorem savedAll_of_saveAll {writes : List (Path × String)}
    (h : tree.saveAll current writes = (.ok (), tree')) : SavedAll tree tree' current writes where
  others _ hlocation := fileAt?_saveAll h hlocation
  texts hplaces write hwrite := by
    obtain ⟨before, after, rfl⟩ := List.append_of_mem hwrite
    have hlater := (List.pairwise_append.mp hplaces).2.1
    exact readText_saveAll h (List.pairwise_cons.mp hlater).1

end PageSketch.FileTree
