import PageSketch.Proofs.Session.Traffic
import PageSketch.Session.Episode

/-!
# Episodes as traffic

Every episode is what some history of moments leads to, from whatever has happened before and for calls
that have not been started yet. So what holds after every history holds after every episode.
-/

namespace PageSketch.Traffic

variable {t : Traffic} {history : History} {a b : Nat}

/-- A call that starts while nothing is in flight can be admitted. -/
theorem run?_admitted (h : run? history = some t) (ha : t.stage a = none) {session : Session}
    (hbegin : t.session.begin? = some session) :
    run? (.admitted a :: history) = some (t.move session a .waiting) := by
  rw [run?, h, Option.bind_some, after?, ha, hbegin]

/-- A call that starts while one is in flight can be rejected. -/
theorem run?_rejected (h : run? history = some t) (ha : t.stage a = none)
    (hbegin : t.session.begin? = none) :
    run? (.rejected a :: history) = some (t.move t.session a (.returned none)) := by
  rw [run?, h, Option.bind_some, after?, ha, hbegin]

/-- A call that is admitted can be carried through. -/
theorem run?_finish_admitted (h : run? history = some t) (ha : t.stage a = none) {session : Session}
    (hbegin : t.session.begin? = some session) (outcome : Outcome) :
    run? (.released a :: .committed a outcome :: .admitted a :: history) =
      some (t.move (session.finish outcome) a (.returned (some outcome))) := by
  rw [run?_finish (run?_admitted h ha hbegin) (stage_move_self _ _), move_move, session_move]

/-- One call, carried through if it is admitted. -/
theorem exists_run?_run (h : run? history = some t) (ha : t.stage a = none) (call : Call) :
    ∃ later outcome, (t.session.run call).outcomes = [outcome] ∧
      run? (later ++ history) =
        some (t.move (t.session.run call).session a (.returned outcome)) := by
  rw [Session.run]
  cases hbegin : t.session.begin? with
  | none => exact ⟨[.rejected a], none, rfl, run?_rejected h ha hbegin⟩
  | some session =>
    exact ⟨[.released a, .committed a call.outcome, .admitted a], some call.outcome, rfl,
      run?_finish_admitted h ha hbegin call.outcome⟩

/-- Two calls, of which the second one starts while the first one waits or after it. -/
theorem exists_run?_overlap (h : run? history = some t) (ha : t.stage a = none)
    (hb : t.stage b = none) (hne : b ≠ a) (first second : Call) :
    ∃ later outcome outcome', (t.session.overlap first second).outcomes = [outcome, outcome'] ∧
      run? (later ++ history) =
        some ((t.move t.session a (.returned outcome)).move
          (t.session.overlap first second).session b (.returned outcome')) := by
  -- Where the first call stands makes no difference to whether the second one has been started.
  have hb' : ∀ session stage, (t.move session a stage).stage b = none := fun session stage =>
    (stage_move_of_ne session stage hne).trans hb
  rw [Session.overlap]
  cases hbegin : t.session.begin? with
  | none =>
    have hfirst := run?_rejected h ha hbegin
    obtain ⟨later, outcome', houtcomes, hrun⟩ := exists_run?_run hfirst (hb' _ _) second
    refine ⟨later ++ [.rejected a], none, outcome', congrArg _ houtcomes, ?_⟩
    rw [List.append_assoc]
    exact hrun
  | some session =>
    cases hwait : first.wait with
    | none =>
      have hfirst := run?_finish_admitted h ha hbegin first.outcome
      obtain ⟨later, outcome', houtcomes, hrun⟩ := exists_run?_run hfirst (hb' _ _) second
      refine ⟨later ++ [.released a, .committed a first.outcome, .admitted a], some first.outcome,
        outcome', congrArg _ houtcomes, ?_⟩
      rw [List.append_assoc]
      exact hrun
    | some wait =>
      have hfirst := run?_admitted h ha hbegin
      obtain ⟨later, outcome', houtcomes, hrun⟩ := exists_run?_run hfirst (hb' _ _) second
      refine ⟨.released a :: .committed a first.outcome :: (later ++ [.admitted a]),
        some first.outcome, outcome', congrArg _ houtcomes, ?_⟩
      have hwaiting : ((t.move session a .waiting).move (session.run second).session b
          (.returned outcome')).stage a = some .waiting := by
        rw [stage_move_of_ne _ _ (Ne.symm hne), stage_move_self]
      have hfinish := run?_finish hrun hwaiting first.outcome
      rw [move_comm _ t.session _ _ _ (Ne.symm hne), move_move] at hfinish
      rw [List.cons_append, List.cons_append, List.append_assoc]
      exact hfinish

/-- A call that is watched: the session is looked at on the way. -/
theorem exists_run?_watch (h : run? history = some t) (ha : t.stage a = none) (call : Call) :
    ∃ before later outcome seen, (t.session.watch call).2.outcomes = [outcome] ∧
      run? (before ++ history) = some seen ∧ seen.session = (t.session.watch call).1 ∧
      run? (later ++ (before ++ history)) =
        some (t.move (t.session.watch call).2.session a (.returned outcome)) := by
  rw [Session.watch]
  cases hbegin : t.session.begin? with
  | none => exact ⟨[], [.rejected a], none, t, rfl, h, rfl, run?_rejected h ha hbegin⟩
  | some session =>
    have hadmitted := run?_admitted h ha hbegin
    have hfinish := run?_finish_admitted h ha hbegin call.outcome
    cases hwait : call.wait with
    | none =>
      exact ⟨[.released a, .committed a call.outcome, .admitted a], [], some call.outcome, _, rfl,
        hfinish, rfl, hfinish⟩
    | some wait =>
      exact ⟨[.admitted a], [.released a, .committed a call.outcome], some call.outcome, _, rfl,
        hadmitted, rfl, hfinish⟩

/-- A call that is dropped if it waits for too long. -/
theorem exists_run?_runWithin (h : run? history = some t) (ha : t.stage a = none) (limit : Nat)
    (call : Call) :
    ∃ later stage outcome, (t.session.runWithin limit call).outcomes = [outcome] ∧
      (stage = .returned outcome ∨ stage = .dropped ∧ outcome = none) ∧
      run? (later ++ history) = some (t.move (t.session.runWithin limit call).session a stage) := by
  rw [Session.runWithin]
  cases hbegin : t.session.begin? with
  | none => exact ⟨[.rejected a], .returned none, none, rfl, .inl rfl, run?_rejected h ha hbegin⟩
  | some session =>
    by_cases hlimit : limit < call.wait.getD 0
    · simp only [if_pos hlimit]
      have hadmitted := run?_admitted h ha hbegin
      refine ⟨[.dropped a, .admitted a], .dropped, none, rfl, .inr ⟨rfl, rfl⟩, ?_⟩
      refine run?_cons_eq_some_iff.mpr ⟨_, hadmitted, after?_dropped_eq_some_iff.mpr ?_⟩
      exact ⟨stage_move_self _ _, (move_move _ _ _ _).symm⟩
    · simp only [if_neg hlimit]
      obtain ⟨later, outcome, houtcomes, hrun⟩ := exists_run?_run h ha call
      exact ⟨later, .returned outcome, outcome, houtcomes, .inl rfl, hrun⟩

end PageSketch.Traffic
