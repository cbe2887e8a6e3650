import PageSketch.Session.Traffic

/-!
# How traffic moves

When a moment can come and what it changes, told once for every kind of moment; the later modules
argue from these equivalences. From them follows what a history has about one call: the moments that
the call must have had to stand where it stands.
-/

namespace PageSketch.Traffic

variable {t t' : Traffic} {history : History} {call other : Nat} {event : Event}

/-! ## Moments -/

/-- A call that has not been started is admitted while nothing is in flight. -/
theorem after?_admitted_eq_some_iff :
    t.after? (.admitted call) = some t' ↔
      t.stage call = none ∧ t.session.isGenerating = false ∧
        t' = t.move ⟨true, t.session.current, ""⟩ call .waiting := by
  rw [after?, Session.begin?]
  cases t.stage call <;> cases t.session.isGenerating <;> simp [eq_comm]

/-- A call that has not been started is rejected while one is in flight. -/
theorem after?_rejected_eq_some_iff :
    t.after? (.rejected call) = some t' ↔
      t.stage call = none ∧ t.session.isGenerating = true ∧
        t' = t.move t.session call (.returned none) := by
  rw [after?, Session.begin?]
  cases t.stage call <;> cases t.session.isGenerating <;> simp [eq_comm]

/-- Any outcome can be committed for a call that waits. -/
theorem after?_committed_eq_some_iff {outcome : Outcome} :
    t.after? (.committed call outcome) = some t' ↔
      t.stage call = some .waiting ∧
        t' = t.move (t.session.commit outcome) call (.committed outcome) := by
  rw [after?]
  rcases t.stage call with _ | _ | _ | _ | _ <;> simp [eq_comm]

/-- A call is released once its outcome is committed. -/
theorem after?_released_eq_some_iff :
    t.after? (.released call) = some t' ↔
      ∃ outcome, t.stage call = some (.committed outcome) ∧
        t' = t.move t.session.release call (.returned (some outcome)) := by
  rw [after?]
  rcases t.stage call with _ | _ | _ | _ | _ <;> simp [eq_comm]

/-- A call can be dropped while it waits. -/
theorem after?_dropped_eq_some_iff :
    t.after? (.dropped call) = some t' ↔
      t.stage call = some .waiting ∧ t' = t.move t.session.release call .dropped := by
  rw [after?]
  rcases t.stage call with _ | _ | _ | _ | _ <;> simp [eq_comm]

/-- A history goes on with a moment that can come after it. -/
theorem run?_cons_eq_some_iff :
    run? (event :: history) = some t' ↔ ∃ t, run? history = some t ∧ t.after? event = some t' := by
  rw [run?, Option.bind_eq_some_iff]

/-! ## Stages -/

@[simp] theorem session_move (session : Session) (stage : Stage) :
    (t.move session call stage).session = session := rfl

@[simp] theorem stage_move_self (session : Session) (stage : Stage) :
    (t.move session call stage).stage call = some stage := by simp [move]

theorem stage_move_of_ne (session : Session) (stage : Stage) (h : other ≠ call) :
    (t.move session call stage).stage other = t.stage other := by simp [move, h]

/-- Of two moves of one call the later one counts. -/
theorem move_move (session session' : Session) (stage stage' : Stage) :
    (t.move session call stage).move session' call stage' = t.move session' call stage' := by
  simp only [move, Traffic.mk.injEq, true_and]
  funext other
  by_cases h : other = call
  · rw [if_pos h, if_pos h]
  · rw [if_neg h, if_neg h, if_neg h]

/-- The order of moves of two calls does not matter for where they stand. -/
theorem move_comm (session session' last : Session) (stage stage' : Stage) (h : other ≠ call) :
    (t.move session call stage).move last other stage' =
      (t.move session' other stage').move last call stage := by
  simp only [move, Traffic.mk.injEq, true_and]
  funext third
  by_cases hcall : third = call
  · rw [if_neg (fun hother => h (hother.symm.trans hcall)), if_pos hcall, if_pos hcall]
  · rw [if_neg hcall, if_neg hcall]

/-- What has a moment is the call that it names: every other call stays where it is. -/
theorem after?_eq_move (h : t.after? event = some t') :
    ∃ session stage, t' = t.move session event.call stage := by
  cases event with
  | admitted call => exact ⟨_, _, (after?_admitted_eq_some_iff.mp h).2.2⟩
  | rejected call => exact ⟨_, _, (after?_rejected_eq_some_iff.mp h).2.2⟩
  | committed call outcome => exact ⟨_, _, (after?_committed_eq_some_iff.mp h).2⟩
  | released call =>
    obtain ⟨outcome, -, rfl⟩ := after?_released_eq_some_iff.mp h
    exact ⟨_, _, rfl⟩
  | dropped call => exact ⟨_, _, (after?_dropped_eq_some_iff.mp h).2⟩

/-- A moment of one call leaves every other call where it is. -/
theorem stage_after?_of_ne (h : t.after? event = some t') (hother : other ≠ event.call) :
    t'.stage other = t.stage other := by
  obtain ⟨session, stage, rfl⟩ := after?_eq_move h
  exact stage_move_of_ne session stage hother

/-- A call that waits can be carried through, whatever its outcome is. -/
theorem run?_finish (h : run? history = some t) (hstage : t.stage call = some .waiting)
    (outcome : Outcome) :
    run? (.released call :: .committed call outcome :: history) =
      some (t.move (t.session.finish outcome) call (.returned (some outcome))) := by
  have hcommitted : run? (.committed call outcome :: history) =
      some (t.move (t.session.commit outcome) call (.committed outcome)) :=
    run?_cons_eq_some_iff.mpr ⟨t, h, after?_committed_eq_some_iff.mpr ⟨hstage, rfl⟩⟩
  refine run?_cons_eq_some_iff.mpr ⟨_, hcommitted, after?_released_eq_some_iff.mpr ?_⟩
  exact ⟨outcome, stage_move_self _ _, (move_move _ _ _ _).symm⟩

/-! ## The course of a call -/

/-- The moments that a call at a stage has had, the latest one first. -/
def course (call : Nat) : Option Stage → History
  | none => []
  | some .waiting => [.admitted call]
  | some (.committed outcome) => [.committed call outcome, .admitted call]
  | some (.returned (some outcome)) =>
    [.released call, .committed call outcome, .admitted call]
  | some (.returned none) => [.rejected call]
  | some .dropped => [.dropped call, .admitted call]

/-- A moment is the next one in the course of its call. -/
theorem course_after? (h : t.after? event = some t') :
    course event.call (t'.stage event.call) =
      event :: course event.call (t.stage event.call) := by
  cases event with
  | admitted call =>
    obtain ⟨hstage, -, rfl⟩ := after?_admitted_eq_some_iff.mp h
    rw [Event.call, stage_move_self, hstage, course, course]
  | rejected call =>
    obtain ⟨hstage, -, rfl⟩ := after?_rejected_eq_some_iff.mp h
    rw [Event.call, stage_move_self, hstage, course, course]
  | committed call outcome =>
    obtain ⟨hstage, rfl⟩ := after?_committed_eq_some_iff.mp h
    rw [Event.call, stage_move_self, hstage, course, course]
  | released call =>
    obtain ⟨outcome, hstage, rfl⟩ := after?_released_eq_some_iff.mp h
    rw [Event.call, stage_move_self, hstage, course, course]
  | dropped call =>
    obtain ⟨hstage, rfl⟩ := after?_dropped_eq_some_iff.mp h
    rw [Event.call, stage_move_self, hstage, course, course]

/-- What a history has about one call is the course of that call. -/
theorem filter_history (h : run? history = some t) (call : Nat) :
    history.filter (·.call == call) = course call (t.stage call) := by
  induction history generalizing t with
  | nil =>
    obtain rfl := Option.some.inj h
    rfl
  | cons event earlier ih =>
    obtain ⟨s, hs, hevent⟩ := run?_cons_eq_some_iff.mp h
    by_cases hcall : event.call = call
    · subst hcall
      rw [List.filter_cons_of_pos (by simp), ih hs, course_after? hevent]
    · rw [List.filter_cons_of_neg (by simpa using hcall), ih hs,
        stage_after?_of_ne hevent (Ne.symm hcall)]

/-- Whether something has happened is told by where its call stands. -/
theorem mem_history_iff (h : run? history = some t) :
    event ∈ history ↔ event ∈ course event.call (t.stage event.call) := by
  rw [← filter_history h, List.mem_filter]
  simp

end PageSketch.Traffic
