import Mathlib.Data.Set.Basic
import PageSketch.Proofs.Files.Saving

/-!
# The way of a path

Following a path looks at the locations that the path comes by, and at no others. `way` lists them
without looking at any tree. Trees that agree on the way of a path read the same there, and trees that
agree above a path are changed alike when a file is saved at the path: everywhere else both are left
as they were.
-/

namespace PageSketch.FileTree

variable {tree tree' : FileTree} {current start location place : Location} {names : List String}
  {path : Path} {contents : ByteArray}

/-! ## Ways -/

/-- The location that a name leads to from a directory. -/
def move (location : Location) (name : String) : Location :=
  if name = "." then location else if name = ".." then location.tail else name :: location

/-- The locations that names come by, the place to which they lead among them. -/
def way (start : Location) (names : List String) : Set Location :=
  {location | ∃ front, front <+: names ∧ location = front.foldl move start}

/-- The place that a path leads to, if it can be followed. -/
def target (current : Location) (path : Path) : Location :=
  path.names.foldl move (startOf current path)

/-- The locations by which a path comes. -/
def wayTo (current : Location) (path : Path) : Set Location :=
  way (startOf current path) path.names

/-- The locations by which a path comes before its last name. -/
def wayAbove (current : Location) (path : Path) : Set Location :=
  way (startOf current path) path.names.dropLast

/-- A way begins where it starts. -/
theorem start_mem_way (start : Location) (names : List String) : start ∈ way start names :=
  ⟨[], List.nil_prefix, rfl⟩

/-- A way ends where the names lead. -/
theorem foldl_mem_way (start : Location) (names : List String) :
    names.foldl move start ∈ way start names :=
  ⟨names, List.prefix_rfl, rfl⟩

/-- The way behind a first name is part of the way. -/
theorem way_subset_cons (start : Location) (name : String) (names : List String) :
    way (move start name) names ⊆ way start (name :: names) := by
  rintro _ ⟨front, hfront, rfl⟩
  exact ⟨name :: front, List.cons_prefix_cons.mpr ⟨rfl, hfront⟩, rfl⟩

/-- Names at the beginning have a part of the way. -/
theorem way_subset_of_front {names' : List String} (h : names' <+: names) (start : Location) :
    way start names' ⊆ way start names := by
  rintro _ ⟨front, hfront, rfl⟩
  exact ⟨front, hfront.trans h, rfl⟩

/-- A step that works leads where its name does. -/
theorem eq_move_of_step {name : String} (h : tree.step start name = .ok location) :
    location = move start name := by
  unfold step at h
  unfold move
  split at h
  · cases h
  · cases h
  · split at h
    · rename_i hhere
      rw [if_pos hhere]
      exact (Except.ok.inj h).symm
    · rename_i hhere
      rw [if_neg hhere]
      split at h
      · rename_i habove
        rw [if_pos habove]
        exact (Except.ok.inj h).symm
      · rename_i habove
        rw [if_neg habove]
        split at h
        · cases h
        · exact (Except.ok.inj h).symm

/-- Names that can be followed lead where their way ends. -/
theorem eq_foldl_of_follow (h : tree.follow start names = .ok location) :
    location = names.foldl move start := by
  induction names generalizing start with
  | nil => exact (Except.ok.inj h).symm
  | cons name rest ih =>
    rw [follow] at h
    split at h
    · rename_i next hnext
      rw [List.foldl_cons, ← eq_move_of_step hnext]
      exact ih h
    · cases h

/-- A path that can be followed leads to its target. -/
theorem eq_target_of_place (h : tree.place current path = .ok location) :
    location = target current path :=
  eq_foldl_of_follow h

/-- What was saved is where its path leads. -/
theorem lookup_target_of_save (h : tree.save current path contents = (.ok (), tree')) :
    tree'.lookup (target current path) = some (.file contents) := by
  obtain ⟨location, hsaved⟩ := exists_saved h
  rw [← eq_target_of_place hsaved.place_eq]
  exact hsaved.lookup_eq

/-! ## Trees that agree -/

/-- Whether there is the same in two trees at some locations. -/
def AgreeOn (locations : Set Location) (tree tree' : FileTree) : Prop :=
  ∀ location ∈ locations, tree'.lookup location = tree.lookup location

/-- Trees that agree somewhere agree on every part of it. -/
theorem AgreeOn.mono {locations locations' : Set Location} (h : AgreeOn locations tree tree')
    (hsubset : locations' ⊆ locations) : AgreeOn locations' tree tree' :=
  fun location hlocation => h location (hsubset hlocation)

/-- From a location at which trees agree a step leads to the same. -/
theorem step_congr (h : tree'.lookup start = tree.lookup start) (name : String) :
    tree'.step start name = tree.step start name := by
  unfold step
  rw [h]

/-- In trees that agree above the last name, names lead to the same place. -/
theorem follow_congr (h : AgreeOn (way start names.dropLast) tree tree') :
    tree'.follow start names = tree.follow start names := by
  induction names generalizing start with
  | nil => rfl
  | cons name rest ih =>
    rw [follow, follow, step_congr (h start (start_mem_way ..)) name]
    cases hstep : tree.step start name with
    | error fault => rfl
    | ok next =>
      cases rest with
      | nil => rfl
      | cons second rest =>
        apply ih
        rw [eq_move_of_step hstep]
        apply h.mono
        rw [List.dropLast_cons_cons]
        exact way_subset_cons ..

/-- In trees that agree on the way of names, names lead to the same place. -/
theorem follow_congr_way (h : AgreeOn (way start names) tree tree') :
    tree'.follow start names = tree.follow start names :=
  follow_congr (h.mono (way_subset_of_front (List.dropLast_prefix names) start))

/-- In trees that agree on the way of names, there is the same where they lead. -/
theorem lookup_congr_of_follow (h : AgreeOn (way start names) tree tree')
    (hfollow : tree.follow start names = .ok location) :
    tree'.lookup location = tree.lookup location := by
  apply h
  rw [eq_foldl_of_follow hfollow]
  exact foldl_mem_way ..

/-- In trees that agree on the way of a path, the path names the same. -/
theorem entryOf_congr (h : AgreeOn (wayTo current path) tree tree') :
    tree'.entryOf current path = tree.entryOf current path := by
  unfold entryOf
  rw [follow_congr_way h]
  cases hfollow : tree.follow (startOf current path) path.names with
  | error fault => rfl
  | ok location => simp only [lookup_congr_of_follow h hfollow]

/-- In trees that agree on the way of a path, the same text is read. -/
theorem readText_congr (h : AgreeOn (wayTo current path) tree tree') :
    tree'.readText current path = tree.readText current path := by
  unfold readText
  rw [entryOf_congr h]

/-- Whether two trees are the same but for what is at one location, where neither has a directory: a
file is there in one of them or in both, or nothing. -/
structure SameBut (place : Location) (tree tree' : FileTree) : Prop where
  elsewhere : ∀ location, location ≠ place → tree'.lookup location = tree.lookup location
  noDirectory : tree.isDirectory place = false
  noDirectory' : tree'.isDirectory place = false

/-- Trees that are the same but for one location agree where it is not. -/
theorem SameBut.agreeOn {locations : Set Location} (h : SameBut place tree tree')
    (hplace : place ∉ locations) : AgreeOn locations tree tree' :=
  fun location hlocation => h.elsewhere location fun heq => hplace (heq ▸ hlocation)

/-- Trees that are the same but for one location have the same directories. -/
theorem SameBut.isDirectory_eq (h : SameBut place tree tree') (location : Location) :
    tree'.isDirectory location = tree.isDirectory location := by
  by_cases hplace : location = place
  · rw [hplace, h.noDirectory, h.noDirectory']
  · rw [isDirectory, isDirectory, h.elsewhere location hplace]

/-- Setting a file where no directory is changes nothing elsewhere. -/
theorem sameBut_withEntry (h : tree.isDirectory place = false) (contents : ByteArray) :
    SameBut place tree (tree.withEntry place (.file contents)) where
  elsewhere _ hlocation := lookup_withEntry_of_ne tree hlocation _
  noDirectory := h
  noDirectory' := by
    have hplace : tree.lookup place ≠ some .directory := by
      intro hdirectory
      rw [isDirectory_iff.mpr hdirectory] at h
      cases h
    rw [isDirectory, lookup_withEntry hplace]

/-! ## Changing two trees -/

/-- Whether two trees come from two others by the same change: everywhere there is the same in both of
them, or in each of them what was there before. -/
structure ChangedAlike (tree tree' after after' : FileTree) : Prop where
  lookup_eq : ∀ location, after'.lookup location = after.lookup location ∨
    after.lookup location = tree.lookup location ∧ after'.lookup location = tree'.lookup location

/-- Two trees that are left as they are are changed alike. -/
theorem ChangedAlike.refl (tree tree' : FileTree) : ChangedAlike tree tree' tree tree' where
  lookup_eq _ := .inr ⟨rfl, rfl⟩

/-- The same change after the same change is the same change. -/
theorem ChangedAlike.trans {after after' later later' : FileTree}
    (h : ChangedAlike tree tree' after after') (h' : ChangedAlike after after' later later') :
    ChangedAlike tree tree' later later' where
  lookup_eq location := by
    rcases h'.lookup_eq location with hsame | ⟨hkept, hkept'⟩
    · exact .inl hsame
    · rw [hkept, hkept']
      exact h.lookup_eq location

/-- Where trees agree, they agree after the same change. -/
theorem ChangedAlike.agreeOn {after after' : FileTree} {locations : Set Location}
    (h : ChangedAlike tree tree' after after') (hagree : AgreeOn locations tree tree') :
    AgreeOn locations after after' := by
  intro location hlocation
  rcases h.lookup_eq location with hsame | ⟨hkept, hkept'⟩
  · exact hsame
  · rw [hkept, hkept']
    exact hagree location hlocation

/-- Where there is a directory in both trees or in none, it is so after the same change. -/
theorem ChangedAlike.isDirectory_eq {after after' : FileTree}
    (h : ChangedAlike tree tree' after after')
    (hdirectory : tree'.isDirectory location = tree.isDirectory location) :
    after'.isDirectory location = after.isDirectory location := by
  unfold isDirectory at hdirectory ⊢
  rcases h.lookup_eq location with hsame | ⟨hkept, hkept'⟩
  · rw [hsame]
  · rw [hkept, hkept']
    exact hdirectory

/-- Setting the same entry in both trees is the same change. -/
theorem changedAlike_withEntry (tree tree' : FileTree) (location : Location) (entry : FileEntry) :
    ChangedAlike tree tree' (tree.withEntry location entry) (tree'.withEntry location entry) where
  lookup_eq other := by
    by_cases hroot : other = []
    · exact .inl (by rw [hroot, lookup_root, lookup_root])
    · by_cases hother : other = location
      · subst hother
        rw [lookup_withEntry_self tree hroot, lookup_withEntry_self tree' hroot]
        exact .inl rfl
      · rw [lookup_withEntry_of_ne tree hother, lookup_withEntry_of_ne tree' hother]
        exact .inr ⟨rfl, rfl⟩

/-- Whether two changes end the same and change two trees alike. -/
structure Alike (tree tree' : FileTree) (changed changed' : Changed) : Prop where
  result_eq : changed'.1 = changed.1
  changedAlike : ChangedAlike tree tree' changed.2 changed'.2

/-- A directory is made alike in trees that agree on its way. -/
theorem makeDirectory_alike (h : AgreeOn (way start names.reverse) tree tree') :
    Alike tree tree' (tree.makeDirectory start names) (tree'.makeDirectory start names) := by
  unfold makeDirectory
  rw [followToMake_eq_follow, followToMake_eq_follow, follow_congr_way h]
  cases hfollow : tree.follow start names.reverse with
  | error fault => exact ⟨rfl, .refl tree tree'⟩
  | ok location =>
    simp only [lookup_congr_of_follow h hfollow]
    cases tree.lookup location with
    | some entry => exact ⟨rfl, .refl tree tree'⟩
    | none => exact ⟨rfl, changedAlike_withEntry tree tree' location .directory⟩

/-- In trees that agree on the way of names, they lead to a directory or not. -/
theorem leadsToDirectory_congr (h : AgreeOn (way start names.reverse) tree tree') :
    tree'.leadsToDirectory start names = tree.leadsToDirectory start names := by
  unfold leadsToDirectory
  rw [follow_congr_way h]
  cases hfollow : tree.follow start names.reverse with
  | error fault => rfl
  | ok location => simp only [isDirectory, lookup_congr_of_follow h hfollow]

/-- A directory that is there is accepted alike. -/
theorem orPresent_alike {changed changed' : Changed}
    (hagree : AgreeOn (way start names.reverse) tree tree') (h : Alike tree tree' changed changed') :
    Alike tree tree' (orPresent start names changed) (orPresent start names changed') := by
  obtain ⟨result, after⟩ := changed
  obtain ⟨result', after'⟩ := changed'
  obtain rfl : result' = result := h.result_eq
  cases result' with
  | ok _ => exact h
  | error fault =>
    have hleads : after'.leadsToDirectory start names = after.leadsToDirectory start names :=
      leadsToDirectory_congr (h.changedAlike.agreeOn hagree)
    simp only [orPresent, hleads]
    split
    · exact ⟨rfl, h.changedAlike⟩
    · exact h

/-- Directories are made alike in trees that agree on their way. -/
theorem makeDirectories_alike (h : AgreeOn (way start names.reverse) tree tree') :
    Alike tree tree' (tree.makeDirectories start names) (tree'.makeDirectories start names) := by
  induction names generalizing tree tree' with
  | nil => exact ⟨rfl, .refl tree tree'⟩
  | cons name outer ih =>
    have houter : AgreeOn (way start outer.reverse) tree tree' := by
      apply h.mono
      rw [List.reverse_cons]
      exact way_subset_of_front (List.prefix_append ..) start
    have hmake := makeDirectory_alike h
    rw [makeDirectories, makeDirectories]
    generalize tree.makeDirectory start (name :: outer) = changed at hmake ⊢
    generalize tree'.makeDirectory start (name :: outer) = changed' at hmake ⊢
    obtain ⟨result, after⟩ := changed
    obtain ⟨result', after'⟩ := changed'
    obtain rfl : result' = result := hmake.result_eq
    cases result' with
    | ok _ => exact orPresent_alike h hmake
    | error fault =>
      cases fault with
      | alreadyExists | notDirectory | isDirectory | nameTooLong | malformedPath | notText | other _ =>
        exact orPresent_alike h hmake
      | notFound =>
        -- The directories above are made first, in both trees with the same result.
        have habove := ih houter
        simp only
        generalize tree.makeDirectories start outer = changed at habove ⊢
        generalize tree'.makeDirectories start outer = changed' at habove ⊢
        obtain ⟨result, made⟩ := changed
        obtain ⟨result', made'⟩ := changed'
        obtain rfl : result' = result := habove.result_eq
        cases result' with
        | error fault => exact ⟨rfl, habove.changedAlike⟩
        | ok _ =>
          have hagree : AgreeOn (way start (name :: outer).reverse) made made' :=
            habove.changedAlike.agreeOn h
          have hlast := orPresent_alike hagree (makeDirectory_alike hagree)
          exact ⟨hlast.result_eq, habove.changedAlike.trans hlast.changedAlike⟩

/-! ## Saving -/

/-- Names that stand for the place itself lead nowhere else. -/
theorem foldl_move_filter (start : Location) (names : List String) :
    (names.filter (· ≠ ".")).foldl move start = names.foldl move start := by
  induction names generalizing start with
  | nil => rfl
  | cons name rest ih =>
    by_cases hhere : name = "."
    · rw [List.filter_cons_of_neg (by simpa using hhere), List.foldl_cons, hhere, ih]
      rfl
    · rw [List.filter_cons_of_pos (by simpa using hhere), List.foldl_cons, List.foldl_cons, ih]

/-- The directories above a path lie on the way to its last name. -/
theorem way_parentNames_subset (current : Location) (path : Path) :
    way (startOf current path) path.parentNames ⊆ wayAbove current path := by
  rintro _ ⟨front, hfront, rfl⟩
  obtain ⟨names, hnames, rfl⟩ := List.prefix_filter_iff.mp (hfront.trans (List.dropLast_prefix _))
  rw [foldl_move_filter]
  rcases path.names.eq_nil_or_concat with hnil | ⟨init, last, hconcat⟩
  · rw [wayAbove, hnil]
    rw [hnil] at hnames
    exact ⟨names, hnames, rfl⟩
  · rw [List.concat_eq_append] at hconcat
    rw [wayAbove, hconcat, List.dropLast_concat]
    rw [hconcat] at hnames
    rcases List.prefix_concat_iff.mp hnames with rfl | hinit
    · -- All names are as many as all but the last only if there are none.
      have hlength := hfront.length_le
      rw [Path.parentNames, hconcat, List.length_dropLast] at hlength
      have hnone : ((init ++ [last]).filter (· ≠ ".")) = [] :=
        List.eq_nil_of_length_eq_zero (by omega)
      rw [← foldl_move_filter, hnone]
      exact start_mem_way ..
    · exact ⟨names, hinit, rfl⟩

/-- Directories above a path are made alike in trees that agree above it. -/
theorem makeParents_alike (h : AgreeOn (wayAbove current path) tree tree') :
    Alike tree tree' (tree.makeParents current path) (tree'.makeParents current path) := by
  unfold makeParents
  cases textFault? path.parentText with
  | some fault => exact ⟨rfl, .refl tree tree'⟩
  | none =>
    apply makeDirectories_alike
    rw [List.reverse_reverse]
    exact h.mono (way_parentNames_subset current path)

/-- A file is written alike in trees that agree above it and have no directory in its place, or both
one. -/
theorem writeFile_alike (h : AgreeOn (wayAbove current path) tree tree')
    (htarget : tree'.isDirectory (target current path) = tree.isDirectory (target current path)) :
    Alike tree tree' (tree.writeFile current path contents)
      (tree'.writeFile current path contents) := by
  unfold writeFile
  rw [followToMake_eq_follow, followToMake_eq_follow, List.reverse_reverse, follow_congr h]
  cases pathFault? path with
  | some fault => exact ⟨rfl, .refl tree tree'⟩
  | none =>
    cases hfollow : tree.follow (startOf current path) path.names with
    | error fault => exact ⟨rfl, .refl tree tree'⟩
    | ok location =>
      rw [← eq_target_of_place hfollow] at htarget
      simp only [htarget]
      split
      · exact ⟨rfl, .refl tree tree'⟩
      · exact ⟨rfl, changedAlike_withEntry tree tree' location (.file contents)⟩

/-- A file is saved alike in trees that agree above it and have no directory in its place, or both
one. -/
theorem save_alike (h : AgreeOn (wayAbove current path) tree tree')
    (htarget : tree'.isDirectory (target current path) = tree.isDirectory (target current path)) :
    Alike tree tree' (tree.save current path contents) (tree'.save current path contents) := by
  have hparents := makeParents_alike h
  rw [save, save]
  generalize tree.makeParents current path = changed at hparents ⊢
  generalize tree'.makeParents current path = changed' at hparents ⊢
  obtain ⟨result, made⟩ := changed
  obtain ⟨result', made'⟩ := changed'
  obtain rfl : result' = result := hparents.result_eq
  cases result' with
  | error fault => exact ⟨rfl, hparents.changedAlike⟩
  | ok _ =>
    have hwrite : Alike made made' (made.writeFile current path contents)
        (made'.writeFile current path contents) :=
      writeFile_alike (hparents.changedAlike.agreeOn h)
        (hparents.changedAlike.isDirectory_eq htarget)
    exact ⟨hwrite.result_eq, hparents.changedAlike.trans hwrite.changedAlike⟩

end PageSketch.FileTree
