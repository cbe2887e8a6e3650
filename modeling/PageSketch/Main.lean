import PageSketch.Chat.Exchange
import PageSketch.Command.Run

/-!
# The program

The program runs one command on the machine it is started on. There is no network here, so the
model never answers; everything else is done as the commands say. Entries of the log from the
level of information on are written to the stream of messages.
-/

namespace PageSketch.Program

/-! ## Files -/

/-- The fault that an error of the system stands for. -/
def faultOf : IO.Error → FileFault
  | .noFileOrDirectory _ _ _ => .notFound
  | .alreadyExists _ _ _ => .alreadyExists
  | .inappropriateType _ 21 _ => .isDirectory
  | .inappropriateType _ _ _ => .notDirectory
  | e => .other (toString e)

/-- Carries out a file operation. -/
def attempt {α : Type} (action : IO α) : IO (Except FileFault α) := do
  match ← action.toBaseIO with
  | .ok a => return .ok a
  | .error e => return .error (faultOf e)

/-- Whether a path names something: what cannot be opened for another cause is there too. -/
def hasEntry (path : Path) : IO (Except FileFault Bool) := do
  match ← attempt (discard (IO.FS.Handle.mk path.text .read)) with
  | .ok () => return .ok true
  | .error .notFound => return .ok false
  | .error (.other _) => return .ok true
  | .error fault => return .error fault

/-- Reads the text of a file. -/
def readText (path : Path) : IO (Except FileFault String) := do
  match ← attempt (IO.FS.readBinFile path.text) with
  | .error fault => return .error fault
  | .ok bytes =>
    match String.fromUTF8? bytes with
    | some text => return .ok text
    | none => return .error .notText

/-- Writes the text of a file, and makes the directories above it first. -/
def writeText (path : Path) (text : String) : IO (Except FileFault Unit) :=
  attempt do
    unless path.parentText.isEmpty do IO.FS.createDirAll path.parentText
    IO.FS.writeFile path.text text

/-- The directory for settings in the home of the user. -/
def homeDirectory : IO (Option Path) := do
  match ← IO.getEnv "HOME" with
  | some home => if home.isEmpty then return none else return some (Path.child ⟨home⟩ ".config")
  | none => return none

/-- The directory for the settings of programs. -/
def settingsDirectory : IO (Option Path) := do
  match ← IO.getEnv "XDG_CONFIG_HOME" with
  | some directory =>
    if (Path.mk directory).isAbsolute then return some ⟨directory⟩ else homeDirectory
  | none => homeDirectory

/-! ## The log -/

/-- A tag for the entries of one call: random, in groups of hexadecimal digits. -/
def randomTag : IO String := do
  let bytes ← IO.getRandomBytes 16
  let digits := bytes.data.toList.flatMap fun b =>
    [Nat.digitChar (b.toNat / 16), Nat.digitChar (b.toNat % 16)]
  let group (start length : Nat) := String.ofList ((digits.drop start).take length)
  return "-".intercalate [group 0 8, group 8 4, group 12 4, group 16 4, group 20 12]

/-- Writes an entry to the stream of messages, if its level is shown. -/
def note (start : Nat) (tag : String) (entry : LogEntry) : IO Unit := do
  if entry.level.isShown then
    let now ← IO.monoMsNow
    IO.eprint (entry.record ("+" ++ toString (now - start) ++ "ms") tag)

/-! ## Running -/

/-- This machine as a host. -/
def host (settingsDirectory : Option Path) (start : Nat) (tag : String) : Host IO where
  settingsDirectory := settingsDirectory
  hasEntry := hasEntry
  readText := readText
  writeText := writeText
  print line := IO.println line
  report line := IO.eprintln line
  note := note start tag
  wait milliseconds := IO.sleep milliseconds.toUInt32
  clientName := (Chat.Client.web .silent).name
  ask endpoint request := return (Chat.Client.web .silent).complete endpoint request

/-- How the program is used. -/
def usage : String :=
  "\n".intercalate
    ["Turn natural-language UI requests into Vue single-file components", "",
     "Usage: nl2ui [--settings <FILE>] <COMMAND>", "", "Commands:",
     "  generate <TEXT> [-o <FILE>] [--dsl-out <FILE>] [--live-imports] [--strict]",
     "  compile <DSL_FILE> [-o <FILE>] [--live-imports]", "  validate <DSL_FILE>",
     "  config set <KEY> <VALUE>", "  config unset <KEY>", "  config show"]

/-- Answers a command line that is not carried out. -/
def refuse : Command.UsageError → IO Unit
  | .helpWanted => IO.println usage
  | .versionWanted => IO.println Command.versionLine
  | .helpInstead => IO.eprintln usage
  | _ => IO.eprintln ("error: invalid arguments\n\n" ++ usage)

/-- Runs a command line. -/
def run (args : List String) : IO UInt32 := do
  match Command.Invocation.read args with
  | .error e =>
    refuse e
    return e.exitCode.toUInt32
  | .ok invocation =>
    let start ← IO.monoMsNow
    let tag ← randomTag
    match ← Command.run (host (← settingsDirectory) start tag) invocation with
    | .ok code => return code.toUInt32
    | .error e =>
      note start tag (.plain .error .program e.message)
      return 1

end PageSketch.Program

/-- The program. -/
def main (args : List String) : IO UInt32 := PageSketch.Program.run args
