import PageSketch.Text.Terminal

/-!
# Log entries

What the parts of the program note while they work. An entry names its level, the part that wrote
it and its text; entries of one generation call carry the tag of that call, which is chosen where
the log is written. On the stream of messages an entry is a record: its lines but the first are
indented, and it holds no commands to the terminal.
-/

namespace PageSketch

/-- How important an entry is. -/
inductive LogLevel where
  | debug
  | info
  | warn
  | error
deriving DecidableEq, Repr

/-- The name of a level. -/
def LogLevel.name : LogLevel → String
  | debug => "DEBUG"
  | info => "INFO"
  | warn => "WARN"
  | error => "ERROR"

/-- The name of a level, filled up to the width of the longest one. -/
def LogLevel.column (level : LogLevel) : String :=
  level.name ++ String.ofList (List.replicate (5 - level.name.length) ' ')

/-- Whether an entry is shown when nothing is said about the log. -/
def LogLevel.isShown : LogLevel → Bool
  | debug => false
  | info => true
  | warn => true
  | error => true

/-- The part of the program that wrote an entry. -/
inductive LogOrigin where
  | program
  | commands
  | settings
  | parser
  | session
  | client
  | sources
deriving DecidableEq, Repr

/-- The name of a part in the log. -/
def LogOrigin.name : LogOrigin → String
  | program => "nl2ui"
  | commands => "nl2ui::commands"
  | settings => "nl_parser::config"
  | parser => "nl_parser::parser"
  | session => "nl_parser::session"
  | client => "nl_parser::client"
  | sources => "ui_codegen::codegen"

/-- One entry of the log. -/
structure LogEntry where
  level : LogLevel
  origin : LogOrigin
  /-- Whether the entry carries the tag of a generation call. -/
  isTagged : Bool
  text : String
deriving DecidableEq, Repr

namespace LogEntry

/-- An entry without a tag. -/
def plain (level : LogLevel) (origin : LogOrigin) (text : String) : LogEntry :=
  ⟨level, origin, false, text⟩

/-- An entry of a generation call. -/
def ofCall (level : LogLevel) (text : String) : LogEntry := ⟨level, .parser, true, text⟩

/-- The text of an entry, behind its tag if it carries one. -/
def message (tag : String) (entry : LogEntry) : String :=
  if entry.isTagged then "[" ++ tag ++ "] " ++ entry.text else entry.text

/-- A text with its lines but the first indented. -/
def indented (text : String) : String :=
  String.ofList (text.toList.flatMap fun c => if c = '\n' then "\n    ".toList else [c])

/-- An entry as a record on the stream of messages. -/
def record (time tag : String) (entry : LogEntry) : String :=
  Text.withoutCommands
    ("[" ++ time ++ " " ++ entry.level.column ++ " " ++ entry.origin.name ++ "] " ++
      indented (entry.message tag) ++ "\n")

end LogEntry

end PageSketch
