import PageSketch.Text.Search

/-!
# File paths

A path is kept as it was written, because messages show it that way. Everything else is read off
its text: the names between the slashes, whether it starts at the root, and whether it ends in a
slash, which asks for a directory. A fault says why the file of a path could not be read or written,
with the wording of the operating system.
-/

namespace PageSketch

/-- A path as it was written. -/
structure Path where
  text : String
deriving DecidableEq, Repr, Inhabited

namespace Path

/-- The names on the path, from the start of the path on. -/
def names (path : Path) : List String :=
  ((Text.pieces '/' path.text.toList).filter fun piece => !piece.isEmpty).map String.ofList

/-- Whether the path starts at the root. -/
def isAbsolute (path : Path) : Bool := path.text.toList.head? == some '/'

/-- Whether the path asks for a directory. -/
def endsInSlash (path : Path) : Bool := path.text.toList.getLast? == some '/'

/-- The names on the path to the place that holds what the path names. -/
def parentNames (path : Path) : List String := (path.names.filter (· ≠ ".")).dropLast

/-- Takes slashes, and names that stand for the place itself, off the end of a path that is read
backwards. -/
def trimEnd : List Char → List Char
  | '/' :: rest => trimEnd rest
  | '.' :: '/' :: rest => trimEnd rest
  | cs => cs

/-- The beginning of the path up to the place that holds what the path names. -/
def parentText (path : Path) : String :=
  String.ofList
    (trimEnd ((trimEnd path.text.toList.reverse).dropWhile (· ≠ '/'))).reverse

/-- The path of a name in a directory. -/
def child (directory : Path) (name : String) : Path :=
  ⟨if directory.text.isEmpty || directory.endsInSlash then directory.text ++ name
    else directory.text ++ "/" ++ name⟩

end Path

/-! ## Faults -/

/-- A cause for a file operation to fail. -/
inductive FileFault where
  | notFound
  | alreadyExists
  | notDirectory
  | isDirectory
  | nameTooLong
  /-- The path holds a character that no path may hold. -/
  | malformedPath
  /-- The contents of the file are not text. -/
  | notText
  /-- Any other cause, in the words of the system. -/
  | other (message : String)
deriving DecidableEq, Repr

/-- The wording of a fault. -/
def FileFault.message : FileFault → String
  | notFound => "No such file or directory (os error 2)"
  | alreadyExists => "File exists (os error 17)"
  | notDirectory => "Not a directory (os error 20)"
  | isDirectory => "Is a directory (os error 21)"
  | nameTooLong => "File name too long (os error 36)"
  | malformedPath => "file name contained an unexpected NUL byte"
  | notText => "stream did not contain valid UTF-8"
  | other message => message

end PageSketch
