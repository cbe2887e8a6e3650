import PageSketch.Files.Tree
import PageSketch.Host

/-!
# A model of a machine

A world is a tree of files, a working directory, and everything that was printed or noted so far.
`World.host` is a host whose effects are steps of a world, so that what a command does is a
function from worlds to worlds.
-/

namespace PageSketch

/-- Something that was printed or noted. -/
inductive Emission where
  | printed (line : String)
  | reported (line : String)
  | noted (entry : LogEntry)
deriving DecidableEq, Repr

/-- A machine at one moment. -/
structure World where
  files : FileTree
  /-- The working directory. -/
  directory : Location
  /-- What was printed or noted, the first one first. -/
  emitted : List Emission

namespace World

/-- The world with one more emission. -/
def emit (world : World) (emission : Emission) : World :=
  { world with emitted := world.emitted ++ [emission] }

/-- The text of the output. -/
def output (world : World) : String :=
  String.join (world.emitted.map fun
    | .printed line => line ++ "\n"
    | .reported _ => ""
    | .noted _ => "")

/-- The text of the stream of messages, without the log. -/
def messages (world : World) : String :=
  String.join (world.emitted.map fun
    | .printed _ => ""
    | .reported line => line ++ "\n"
    | .noted _ => "")

/-- The text of the stream of messages with the records of the log, where they carry a time and a
tag. -/
def messagesAndLog (world : World) (time tag : String) : String :=
  String.join (world.emitted.map fun
    | .printed _ => ""
    | .reported line => line ++ "\n"
    | .noted entry => if entry.level.isShown then entry.record time tag else "")

/-- The entries of the log. -/
def log (world : World) : List LogEntry :=
  world.emitted.filterMap fun
    | .printed _ => none
    | .reported _ => none
    | .noted entry => some entry

/-- The host whose effects are steps of a world. Waiting takes no time here. -/
def host (settingsDirectory : Option Path) (client : Chat.Client) : Host (StateM World) where
  settingsDirectory := settingsDirectory
  hasEntry path := fun world => (world.files.hasEntry world.directory path, world)
  readText path := fun world => (world.files.readText world.directory path, world)
  writeText path text := fun world =>
    let (result, files) := world.files.save world.directory path text.toUTF8
    (result, { world with files })
  print line := fun world => ((), world.emit (.printed line))
  report line := fun world => ((), world.emit (.reported line))
  note entry := fun world => ((), world.emit (.noted entry))
  wait _ := fun world => ((), world)
  clientName := client.name
  ask endpoint request := fun world => (client.complete endpoint request, world)

end World

end PageSketch
