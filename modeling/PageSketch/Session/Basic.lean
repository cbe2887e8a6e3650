import PageSketch.Generation.Basic
import PageSketch.Markup.Source

/-!
# Sessions

A session is what a user interface shows: whether a generation is in flight, the last good sketch,
and the error of the last generation. A generation is admitted when none is in flight, its outcome
is committed, and it is released at its end, also when it is dropped halfway. Only a success ever
changes the sketch.
-/

namespace PageSketch

/-- The state of a session. -/
structure Session where
  isGenerating : Bool
  current : Option Sketch
  error : String

namespace Session

/-- A session in which nothing has happened. -/
def fresh : Session := ⟨false, none, ""⟩

/-! ## The life of a generation -/

/-- Admits a generation unless one is in flight; the last error is forgotten. -/
def begin? (session : Session) : Option Session :=
  if session.isGenerating then none else some ⟨true, session.current, ""⟩

/-- Takes over an outcome. -/
def commit (session : Session) (outcome : Outcome) : Session :=
  match outcome.status with
  | .success sketch _ => { session with current := some sketch }
  | .unchanged => session
  | .failure failure => { session with error := failure.message }

/-- Ends a generation. -/
def release (session : Session) : Session := { session with isGenerating := false }

/-- Takes over an outcome and ends the generation. -/
def finish (session : Session) (outcome : Outcome) : Session := (session.commit outcome).release

/-- What is noted when a generation is not admitted. -/
def rejectedNote : LogEntry :=
  .plain .warn .session "Rejected command while another generation is in flight"

/-- A generation is admitted just when none is in flight. -/
theorem isSome_begin (session : Session) : session.begin?.isSome = !session.isGenerating := by
  cases h : session.isGenerating <;> simp [begin?, h]

/-- Taking over an outcome does not end the generation. -/
@[simp] theorem isGenerating_commit (session : Session) (outcome : Outcome) :
    (session.commit outcome).isGenerating = session.isGenerating := by
  rw [commit]
  cases outcome.status <;> rfl

/-- A success is the sketch from now on, and nothing else changes the sketch. -/
theorem current_commit (session : Session) (outcome : Outcome) :
    (session.commit outcome).current = outcome.sketch?.or session.current := by
  rw [commit, Outcome.sketch?]
  cases outcome.status <;> rfl

/-- The reason of a failure is the error from now on, and nothing else changes the error. -/
theorem error_commit (session : Session) (outcome : Outcome) :
    (session.commit outcome).error = outcome.error?.getD session.error := by
  rw [commit, Outcome.error?]
  cases outcome.status <;> rfl

/-- Nothing is in flight after the end. -/
@[simp] theorem isGenerating_finish (session : Session) (outcome : Outcome) :
    (session.finish outcome).isGenerating = false := rfl

/-- The status line of a call: that of its outcome, or the busy line if it was rejected. -/
def statusLine : Option Outcome → String
  | some outcome => outcome.message
  | none => StatusLine.busy

/-! ## The source -/

/-- The source of the current sketch; without a sketch it is empty. -/
def source (options : SourceOptions) (session : Session) : String :=
  Markup.source options session.current

/-- What is noted when a sketch is compiled. -/
def compiledNotes : Option Sketch → List LogEntry
  | some sketch => [.plain .debug .sources (Markup.compiledNote sketch)]
  | none => []

end Session

end PageSketch
