import PageSketch.Session.Basic

/-!
# Traffic

Calls reach a session from many places, and they overlap. What a call does to the session happens
in separate moments: it is admitted or rejected, its outcome is committed, it is released; and an
admitted call that still waits for its outcome can be dropped. Between two moments of one call
there can be any moments of other calls. Traffic is what a history of such moments leads to: the
session, and where every call stands.
-/

namespace PageSketch

/-- A moment of a call. -/
inductive Event where
  | admitted (call : Nat)
  | rejected (call : Nat)
  | committed (call : Nat) (outcome : Outcome)
  | released (call : Nat)
  | dropped (call : Nat)

namespace Event

/-- The call that has the moment. -/
def call : Event → Nat
  | admitted call => call
  | rejected call => call
  | committed call _ => call
  | released call => call
  | dropped call => call

/-- Whether a call is rejected. -/
def isRejected : Event → Bool
  | rejected _ => true
  | _ => false

end Event

/-- The moments of all calls of a session, the latest one first. -/
abbrev History := List Event

/-- Where a call stands that has been started. -/
inductive Stage where
  /-- It is admitted, and there is no outcome yet. -/
  | waiting
  /-- The session has taken over the outcome and is still held by the call. -/
  | committed (outcome : Outcome)
  /-- It has come back with an outcome, or with none because it was rejected. -/
  | returned (outcome : Option Outcome)
  | dropped

/-- Whether a call that stands there holds the session. -/
def Stage.holds : Stage → Bool
  | waiting => true
  | committed _ => true
  | returned _ => false
  | dropped => false

/-- A session, and where each of its calls stands; a call that has not been started stands
nowhere. -/
structure Traffic where
  session : Session
  stage : Nat → Option Stage

namespace Traffic

/-- A fresh session without calls. -/
def quiet : Traffic := ⟨.fresh, fun _ => none⟩

/-- The traffic with another session and with one call at another stage. -/
def move (traffic : Traffic) (session : Session) (call : Nat) (stage : Stage) : Traffic :=
  ⟨session, fun other => if other = call then some stage else traffic.stage other⟩

/-- Whether a call holds the session. -/
def Holds (traffic : Traffic) (call : Nat) : Prop := (traffic.stage call).any Stage.holds = true

/-- What a call has come back with, once it has. -/
def result? (traffic : Traffic) (call : Nat) : Option (Option Outcome) :=
  match traffic.stage call with
  | some (.returned outcome) => some outcome
  | _ => none

/-! ## Moments -/

/-- The traffic after a moment, if it can come now. -/
def after? (traffic : Traffic) : Event → Option Traffic
  | .admitted call =>
    match traffic.stage call, traffic.session.begin? with
    | none, some session => some (traffic.move session call .waiting)
    | _, _ => none
  | .rejected call =>
    match traffic.stage call, traffic.session.begin? with
    | none, none => some (traffic.move traffic.session call (.returned none))
    | _, _ => none
  | .committed call outcome =>
    match traffic.stage call with
    | some .waiting =>
      some (traffic.move (traffic.session.commit outcome) call (.committed outcome))
    | _ => none
  | .released call =>
    match traffic.stage call with
    | some (.committed outcome) =>
      some (traffic.move traffic.session.release call (.returned (some outcome)))
    | _ => none
  | .dropped call =>
    match traffic.stage call with
    | some .waiting => some (traffic.move traffic.session.release call .dropped)
    | _ => none

/-- What a history leads to, if it can happen. -/
def run? : History → Option Traffic
  | [] => some quiet
  | event :: earlier => (run? earlier).bind fun traffic => traffic.after? event

end Traffic

end PageSketch
