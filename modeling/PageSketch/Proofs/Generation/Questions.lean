import PageSketch.Command.Run
import PageSketch.World

/-!
# What a generation asks

`generate` tells at once what a generation asks, notes and comes to; on a host the same generation is
carried out step by step. A host can keep a record of the questions that its client is asked, and on
a world with such a record the steps come to what `generate` tells: each question of the call is
asked once, and no other.
-/

namespace PageSketch

/-- A question to a chat client. -/
abbrev Question := Chat.Endpoint × Chat.Request

/-- The questions of a plan. -/
def Plan.questions : Plan → List Question
  | .sample => []
  | .ask endpoint request => [(endpoint, request)]

/-- The question of a call is that of its plan. -/
theorem asked_generate (options : Options) (client : Chat.Client) (settings : ModelSettings)
    (text : String) :
    (generate options client settings text).asked.toList =
      (plan options settings text).questions := by
  rw [generate]
  cases plan options settings text <;> rfl

/-! ## A record of the questions -/

section

variable {m : Type → Type} [Monad m]

/-- The host with a record of the questions that its client is asked, the first one first. -/
def Host.recorded (host : Host m) : Host (StateT (List Question) m) where
  settingsDirectory := host.settingsDirectory
  hasEntry path := StateT.lift (host.hasEntry path)
  readText path := StateT.lift (host.readText path)
  writeText path text := StateT.lift (host.writeText path text)
  print line := StateT.lift (host.print line)
  report line := StateT.lift (host.report line)
  note entry := StateT.lift (host.note entry)
  wait milliseconds := StateT.lift (host.wait milliseconds)
  clientName := host.clientName
  ask endpoint request := do
    modify (· ++ [(endpoint, request)])
    StateT.lift (host.ask endpoint request)

namespace Host

variable (host : Host m)

@[simp] theorem recorded_clientName : host.recorded.clientName = host.clientName := rfl

@[simp] theorem recorded_note (entry : LogEntry) :
    host.recorded.note entry = StateT.lift (host.note entry) := rfl

@[simp] theorem recorded_wait (milliseconds : Nat) :
    host.recorded.wait milliseconds = StateT.lift (host.wait milliseconds) := rfl

@[simp] theorem recorded_ask (endpoint : Chat.Endpoint) (request : Chat.Request) :
    host.recorded.ask endpoint request = (do
      modify (· ++ [(endpoint, request)])
      StateT.lift (host.ask endpoint request)) := rfl

/-- Notes leave no trace in the record. -/
@[simp] theorem run_noteAll_recorded [LawfulMonad m] (entries : List LogEntry)
    (asked : List Question) :
    (host.recorded.noteAll entries).run asked =
      host.noteAll entries >>= fun _ => pure ((), asked) := by
  induction entries with
  | nil => simp [noteAll]
  | cons entry rest ih => simp [noteAll, ih]

end Host

namespace Command

/-- With a record a generation goes on as without one, and the questions of its plan are added to the
record. -/
theorem run_carryOut_recorded [LawfulMonad m] (host : Host m) (options : Options)
    (settings : ModelSettings) (text : String) (asked : List Question) :
    (carryOut host.recorded options settings text).run asked =
      (fun outcome => (outcome, asked ++ (plan options settings text).questions)) <$>
        carryOut host options settings text := by
  rw [carryOut, carryOut]
  cases plan options settings text with
  | sample => simp [Plan.questions]
  | ask endpoint request => simp [Plan.questions]

end Command

end

/-! ## Generations on a world -/

/-- The world with further notes. -/
def World.noting (world : World) (entries : List LogEntry) : World :=
  { world with emitted := world.emitted ++ entries.map .noted }

namespace World

/-- No notes change nothing. -/
@[simp] theorem noting_nil (world : World) : world.noting [] = world := by simp [noting]

/-- Notes one after the other are the notes together. -/
@[simp] theorem noting_noting (world : World) (first second : List LogEntry) :
    (world.noting first).noting second = world.noting (first ++ second) := by
  simp [noting]

variable (directory : Option Path) (client : Chat.Client)

/-- On a world a note is noted. -/
@[simp] theorem run_note (entry : LogEntry) (world : World) :
    ((host directory client).note entry).run world = pure ((), world.noting [entry]) := rfl

/-- On a world notes are noted in their order. -/
@[simp] theorem run_noteAll (entries : List LogEntry) (world : World) :
    ((host directory client).noteAll entries).run world = pure ((), world.noting entries) := by
  induction entries generalizing world with
  | nil => simp [Host.noteAll]
  | cons entry rest ih => simp [Host.noteAll, ih]

/-- On a world waiting takes no time. -/
@[simp] theorem run_wait (milliseconds : Nat) (world : World) :
    ((host directory client).wait milliseconds).run world = pure ((), world) := rfl

/-- On a world the client is asked. -/
@[simp] theorem run_ask (endpoint : Chat.Endpoint) (request : Chat.Request) (world : World) :
    ((host directory client).ask endpoint request).run world =
      pure (client.complete endpoint request, world) := rfl

end World

namespace Command

/-- On a world a generation comes to the outcome of its call and notes what the call notes. -/
theorem run_carryOut (directory : Option Path) (client : Chat.Client) (options : Options)
    (settings : ModelSettings) (text : String) (world : World) :
    let call := generate options client settings text
    (carryOut (World.host directory client) options settings text).run world =
      pure (call.outcome, world.noting (call.opening ++ call.closing)) := by
  intro call
  have hname : (World.host directory client).clientName = client.name := rfl
  rw [carryOut]
  simp only [call, generate]
  cases plan options settings text with
  | sample => simp
  | ask endpoint request => simp [hname]

/-- On a world with a record a generation comes to the outcome of its call, asks the question of the
call once, if it has one, and notes what the call notes. -/
theorem run_carryOut_world (directory : Option Path) (client : Chat.Client) (options : Options)
    (settings : ModelSettings) (text : String) (world : World) :
    let call := generate options client settings text
    ((carryOut (World.host directory client).recorded options settings text).run []).run world =
      pure ((call.outcome, call.asked.toList),
        world.noting (call.opening ++ call.closing)) := by
  intro call
  rw [run_carryOut_recorded, StateT.run_map, run_carryOut, map_pure, List.nil_append,
    ← asked_generate options client]

end Command

end PageSketch
