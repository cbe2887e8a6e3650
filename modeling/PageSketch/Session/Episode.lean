import PageSketch.Session.Basic

/-!
# Episodes

An episode is what happens in a session from one quiet moment to the next: one call, two calls
that may overlap, a call that is watched while it waits, or a call that is dropped when it takes
too long. Time is counted in milliseconds of waiting.
-/

namespace PageSketch

/-- What happened in a session. -/
structure Episode where
  /-- The session afterwards. -/
  session : Session
  /-- The outcome of each call; none if it was rejected or dropped. -/
  outcomes : List (Option Outcome)
  asked : List (Chat.Endpoint × Chat.Request)
  notes : List LogEntry
  elapsed : Nat

namespace Session

/-- A call that is not admitted. -/
def rejected (session : Session) : Episode := ⟨session, [none], [], [rejectedNote], 0⟩

/-- A call that is carried through. -/
def run (session : Session) (call : Call) : Episode :=
  match session.begin? with
  | none => session.rejected
  | some admitted =>
    ⟨admitted.finish call.outcome, [some call.outcome], call.asked.toList,
      call.opening ++ call.closing, call.wait.getD 0⟩

/-- Two calls, of which the second one starts as soon as the first one waits or has ended. -/
def overlap (session : Session) (first second : Call) : Episode :=
  match session.begin? with
  | none =>
    let later := session.run second
    { later with outcomes := none :: later.outcomes, notes := rejectedNote :: later.notes }
  | some admitted =>
    match first.wait with
    | none =>
      let later := (admitted.finish first.outcome).run second
      { later with
        outcomes := some first.outcome :: later.outcomes
        asked := first.asked.toList ++ later.asked
        notes := first.opening ++ first.closing ++ later.notes }
    | some wait =>
      let during := admitted.run second
      ⟨during.session.finish first.outcome, some first.outcome :: during.outcomes,
        first.asked.toList ++ during.asked, first.opening ++ during.notes ++ first.closing,
        wait + during.elapsed⟩

/-- A call that is watched: the session while the call waits, or at its end if it never waits, is
looked at and compiled. -/
def watch (session : Session) (call : Call) : Session × Episode :=
  match session.begin? with
  | none => (session, session.rejected)
  | some admitted =>
    let finished := admitted.finish call.outcome
    let episode : Episode :=
      ⟨finished, [some call.outcome], call.asked.toList, [], call.wait.getD 0⟩
    if call.wait.isSome then
      (admitted,
        { episode with notes := call.opening ++ compiledNotes admitted.current ++ call.closing })
    else
      (finished,
        { episode with notes := call.opening ++ call.closing ++ compiledNotes finished.current })

/-- A call that is dropped if it waits for longer than `limit`. A dropped call leaves nothing but
a free session. -/
def runWithin (session : Session) (limit : Nat) (call : Call) : Episode :=
  match session.begin? with
  | none => session.rejected
  | some admitted =>
    if limit < call.wait.getD 0 then
      ⟨admitted.release, [none], call.asked.toList, call.opening, limit⟩
    else session.run call

end Session

end PageSketch
