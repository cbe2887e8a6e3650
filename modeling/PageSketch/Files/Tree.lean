import PageSketch.Files.Path

/-!
# Trees of files

A tree maps locations to directories and files. A path is followed name by name from a starting
place; every name but the last has to lead to a directory. Writing a file first makes the
directories above it, and only ever changes what stands on its own path.
-/

namespace PageSketch

/-- A place in a tree: the names from the innermost one out to the root. -/
abbrev Location := List String

/-- What stands at a location. -/
inductive FileEntry where
  | directory
  | file (contents : ByteArray)

/-- Directories and files by location. The root is a directory and needs no entry. -/
structure FileTree where
  entries : List (Location × FileEntry)

namespace FileTree

/-! ## Entries -/

/-- What stands at a location. -/
def lookup (tree : FileTree) (location : Location) : Option FileEntry :=
  if location = [] then some .directory
  else (tree.entries.find? fun entry => entry.1 == location).map (·.2)

/-- The tree with another entry at a location. -/
def withEntry (tree : FileTree) (location : Location) (entry : FileEntry) : FileTree :=
  ⟨(location, entry) :: tree.entries.filter fun old => old.1 != location⟩

/-- Whether a directory stands at a location. -/
def isDirectory (tree : FileTree) (location : Location) : Bool :=
  match tree.lookup location with
  | some .directory => true
  | some (.file _) => false
  | none => false

/-- An entry that was set is there. -/
theorem lookup_withEntry_self (tree : FileTree) {location : Location} (h : location ≠ [])
    (entry : FileEntry) : (tree.withEntry location entry).lookup location = some entry := by
  simp [lookup, withEntry, h]

/-- Setting an entry leaves the other locations alone. -/
theorem lookup_withEntry_of_ne (tree : FileTree) {location other : Location}
    (h : other ≠ location) (entry : FileEntry) :
    (tree.withEntry location entry).lookup other = tree.lookup other := by
  unfold lookup withEntry
  split
  · rfl
  · congr 1
    rw [List.find?_cons_of_neg (by simpa using h.symm), List.find?_filter]
    congr 1
    funext old
    by_cases ho : old.1 = other
    · simp [ho, h]
    · simp [ho]

/-! ## Following paths -/

/-- The longest name, in bytes. -/
def longestName : Nat := 255

/-- The longest path, in bytes. -/
def longestPath : Nat := 4095

/-- The location of a name in a directory. Whether anything stands there is left open. -/
def step (tree : FileTree) (directory : Location) (name : String) : Except FileFault Location :=
  match tree.lookup directory with
  | none => .error .notFound
  | some (.file _) => .error .notDirectory
  | some .directory =>
    if name = "." then .ok directory
    else if name = ".." then .ok directory.tail
    else if longestName < name.utf8ByteSize then .error .nameTooLong
    else .ok (name :: directory)

/-- The location at the end of a list of names. -/
def follow (tree : FileTree) (start : Location) : List String → Except FileFault Location
  | [] => .ok start
  | name :: rest =>
    match tree.step start name with
    | .ok next => tree.follow next rest
    | .error fault => .error fault

/-- What makes the text of a path unusable in any tree. -/
def textFault? (text : String) : Option FileFault :=
  if text.toList.contains '\x00' then some .malformedPath
  else if longestPath < text.utf8ByteSize then some .nameTooLong
  else none

/-- What makes a path unusable in any tree. -/
def pathFault? (path : Path) : Option FileFault :=
  if path.text.isEmpty then some .notFound else textFault? path.text

/-- The place from which a path is followed. -/
def startOf (current : Location) (path : Path) : Location :=
  if path.isAbsolute then [] else current

/-- What a path names. -/
def entryOf (tree : FileTree) (current : Location) (path : Path) : Except FileFault FileEntry :=
  match pathFault? path with
  | some fault => .error fault
  | none =>
    match tree.follow (startOf current path) path.names with
    | .error fault => .error fault
    | .ok location =>
      match tree.lookup location with
      | none => .error .notFound
      | some .directory => .ok .directory
      | some (.file contents) =>
        if path.endsInSlash then .error .notDirectory else .ok (.file contents)

/-! ## Reading -/

/-- Whether a path names something. -/
def hasEntry (tree : FileTree) (current : Location) (path : Path) : Except FileFault Bool :=
  match tree.entryOf current path with
  | .ok _ => .ok true
  | .error .notFound => .ok false
  | .error fault => .error fault

/-- The text of a file. -/
def readText (tree : FileTree) (current : Location) (path : Path) : Except FileFault String :=
  match tree.entryOf current path with
  | .error fault => .error fault
  | .ok .directory => .error .isDirectory
  | .ok (.file contents) =>
    match String.fromUTF8? contents with
    | some text => .ok text
    | none => .error .notText

/-- The bytes of a text are that text again. -/
theorem fromUTF8?_toUTF8 (text : String) : String.fromUTF8? text.toUTF8 = some text := by
  unfold String.fromUTF8?
  split
  · rfl
  · rename_i h
    exact absurd (by simp [String.toUTF8, text.isValidUTF8]) h

/-- A path that names the bytes of a text reads as that text. -/
theorem readText_of_entryOf {tree : FileTree} {current : Location} {path : Path} {text : String}
    (h : tree.entryOf current path = .ok (.file text.toUTF8)) :
    tree.readText current path = .ok text := by
  rw [readText, h]
  simp only [fromUTF8?_toUTF8]

/-! ## Writing -/

/-- The outcome of a change, and the tree after it: a change that fails may have been half done. -/
abbrev Changed := Except FileFault Unit × FileTree

/-- The location that a list of names, the innermost one first, leads to when it is to be made. -/
def followToMake (tree : FileTree) (start : Location) : List String → Except FileFault Location
  | [] => .ok start
  | name :: outer =>
    match tree.follow start outer.reverse with
    | .ok directory => tree.step directory name
    | .error fault => .error fault

/-- Makes one directory, at names with the innermost one first. -/
def makeDirectory (tree : FileTree) (start : Location) (names : List String) : Changed :=
  match tree.followToMake start names with
  | .error fault => (.error fault, tree)
  | .ok location =>
    match tree.lookup location with
    | some _ => (.error .alreadyExists, tree)
    | none => (.ok (), tree.withEntry location .directory)

/-- Whether names, with the innermost one first, lead to a directory. -/
def leadsToDirectory (tree : FileTree) (start : Location) (names : List String) : Bool :=
  match tree.follow start names.reverse with
  | .ok location => tree.isDirectory location
  | .error _ => false

/-- Accepts a directory that is there already. -/
def orPresent (start : Location) (names : List String) : Changed → Changed
  | (.ok (), tree) => (.ok (), tree)
  | (.error fault, tree) =>
    if tree.leadsToDirectory start names then (.ok (), tree) else (.error fault, tree)

/-- Makes a directory and the missing ones above it, at names with the innermost one first. -/
def makeDirectories (tree : FileTree) (start : Location) : List String → Changed
  | [] => (.ok (), tree)
  | name :: outer =>
    match tree.makeDirectory start (name :: outer) with
    | (.error .notFound, _) =>
      match tree.makeDirectories start outer with
      | (.error fault, tree') => (.error fault, tree')
      | (.ok (), tree') =>
        orPresent start (name :: outer) (tree'.makeDirectory start (name :: outer))
    | changed => orPresent start (name :: outer) changed

/-- Makes the directories above a path. Only the part of the path that leads to them matters. -/
def makeParents (tree : FileTree) (current : Location) (path : Path) : Changed :=
  match textFault? path.parentText with
  | some fault => (.error fault, tree)
  | none => tree.makeDirectories (startOf current path) path.parentNames.reverse

/-- Writes a file whose directory is there. -/
def writeFile (tree : FileTree) (current : Location) (path : Path) (contents : ByteArray) :
    Changed :=
  match pathFault? path with
  | some fault => (.error fault, tree)
  | none =>
    match tree.followToMake (startOf current path) path.names.reverse with
    | .error fault => (.error fault, tree)
    | .ok location =>
      if path.endsInSlash || tree.isDirectory location then (.error .isDirectory, tree)
      else (.ok (), tree.withEntry location (.file contents))

/-- Writes a file, and makes the directories above it first. -/
def save (tree : FileTree) (current : Location) (path : Path) (contents : ByteArray) : Changed :=
  match tree.makeParents current path with
  | (.error fault, tree') => (.error fault, tree')
  | (.ok (), tree') => tree'.writeFile current path contents

end FileTree

end PageSketch
