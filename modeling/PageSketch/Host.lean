import PageSketch.Chat.Request
import PageSketch.Files.Path

/-!
# Hosts

A host is what the commands act on: files, the two output streams, the log, the clock and a chat
client. The commands are written for any host, so that they run on a real machine as well as on a
model of one.
-/

namespace PageSketch

/-- A host whose effects are those of `m`. -/
structure Host (m : Type → Type) where
  /-- The directory for the settings of programs, if there is one. -/
  settingsDirectory : Option Path
  /-- Whether a path names something. -/
  hasEntry : Path → m (Except FileFault Bool)
  /-- Reads the text of a file. -/
  readText : Path → m (Except FileFault String)
  /-- Writes the text of a file, and makes the directories above it first. -/
  writeText : Path → String → m (Except FileFault Unit)
  /-- Prints a line. -/
  print : String → m Unit
  /-- Prints a line to the stream of messages. -/
  report : String → m Unit
  /-- Writes an entry to the log. -/
  note : LogEntry → m Unit
  /-- Waits for some milliseconds. -/
  wait : Nat → m Unit
  /-- The name of the chat client. -/
  clientName : String
  /-- Asks the chat client. -/
  ask : Chat.Endpoint → Chat.Request → m Chat.Completion

namespace Host

variable {m : Type → Type} [Monad m]

/-- Writes entries to the log. -/
def noteAll (host : Host m) : List LogEntry → m Unit
  | [] => pure ()
  | entry :: rest => do
    host.note entry
    host.noteAll rest

/-- Prints lines. -/
def printAll (host : Host m) : List String → m Unit
  | [] => pure ()
  | line :: rest => do
    host.print line
    host.printAll rest

/-- Prints lines to the stream of messages. -/
def reportAll (host : Host m) : List String → m Unit
  | [] => pure ()
  | line :: rest => do
    host.report line
    host.reportAll rest

end Host

end PageSketch
