import PageSketch.Proofs.Session.SingleFlight

/-!
# What a session remembers

A session remembers two things of its history: the sketch of the success that was committed last, and
how the call that was admitted last has failed, if it has. A call that is rejected leaves no trace in
it, and a history without such calls leads to the same session.
-/

namespace PageSketch

/-! ## What a history says -/

/-- The sketch that a moment commits. -/
def Event.sketch? : Event → Option Sketch
  | committed _ outcome => outcome.sketch?
  | _ => none

/-- The reason of the failure that a moment commits. -/
def Event.reason? : Event → Option String
  | committed _ outcome => outcome.error?
  | _ => none

namespace History

/-- The sketch of the success that was committed last. -/
def lastSketch? (history : History) : Option Sketch := history.findSome? Event.sketch?

/-- The reason of the failure that was committed for a call. -/
def reasonOf? (history : History) (call : Nat) : Option String :=
  (history.filter (·.call == call)).findSome? Event.reason?

/-- The reason of the call that was admitted last, empty if no failure was committed for it. -/
def lastReason (history : History) : String := (history.lastAdmitted?.bind history.reasonOf?).getD ""

/-- The history without the calls that were rejected. -/
def withoutRejected (history : History) : History := history.filter (!·.isRejected)

/-- A moment without a failure says nothing about the reason of any call. -/
theorem reasonOf?_cons_of_none {event : Event} (hreason : event.reason? = none) (history : History)
    (call : Nat) : History.reasonOf? (event :: history) call = history.reasonOf? call := by
  rw [reasonOf?, reasonOf?, List.filter_cons]
  split
  · rw [List.findSome?_cons, hreason]
  · rfl

/-- Only an admission and a failure change the last reason. -/
theorem lastReason_cons_of_none {event : Event} (hadmitted : event.admitted? = none)
    (hreason : event.reason? = none) (history : History) :
    History.lastReason (event :: history) = history.lastReason := by
  have hlast : History.lastAdmitted? (event :: history) = history.lastAdmitted? := by
    rw [lastAdmitted?, lastAdmitted?, List.findSome?_cons, hadmitted]
  rw [lastReason, lastReason, hlast]
  congr 2
  funext call
  exact reasonOf?_cons_of_none hreason history call

end History

namespace Traffic

variable {t t' : Traffic} {history : History} {call : Nat} {event : Event}

/-! ## The sketch and the error -/

/-- A moment changes the sketch to the one that it commits, if any. -/
theorem current_after? (h : t.after? event = some t') :
    t'.session.current = event.sketch?.or t.session.current := by
  cases event with
  | admitted call =>
    obtain ⟨-, -, rfl⟩ := after?_admitted_eq_some_iff.mp h
    rfl
  | rejected call =>
    obtain ⟨-, -, rfl⟩ := after?_rejected_eq_some_iff.mp h
    rfl
  | committed call outcome =>
    obtain ⟨-, rfl⟩ := after?_committed_eq_some_iff.mp h
    exact t.session.current_commit outcome
  | released call =>
    obtain ⟨-, -, rfl⟩ := after?_released_eq_some_iff.mp h
    rfl
  | dropped call =>
    obtain ⟨-, rfl⟩ := after?_dropped_eq_some_iff.mp h
    rfl

/-- The sketch of a session is the one that was committed last. -/
theorem current_of_run? (h : run? history = some t) :
    t.session.current = history.lastSketch? := by
  induction history generalizing t with
  | nil =>
    obtain rfl := Option.some.inj h
    rfl
  | cons event earlier ih =>
    obtain ⟨s, hs, hevent⟩ := run?_cons_eq_some_iff.mp h
    rw [current_after? hevent, ih hs, History.lastSketch?, History.lastSketch?, List.findSome?_cons]
    cases event.sketch? <;> rfl

/-- Nothing is known about the reason of a call that has not been started. -/
theorem reasonOf?_of_stage_eq_none (h : run? history = some t) (hstage : t.stage call = none) :
    history.reasonOf? call = none := by
  rw [History.reasonOf?, filter_history h, hstage, course, List.findSome?_nil]

/-- The error of a session is the reason of the call that was admitted last. -/
theorem error_of_run? (h : run? history = some t) : t.session.error = history.lastReason := by
  induction history generalizing t with
  | nil =>
    obtain rfl := Option.some.inj h
    rfl
  | cons event earlier ih =>
    obtain ⟨s, hs, hevent⟩ := run?_cons_eq_some_iff.mp h
    have hbefore := ih hs
    cases event with
    | admitted call =>
      obtain ⟨hstage, -, rfl⟩ := after?_admitted_eq_some_iff.mp hevent
      have hlast : History.lastAdmitted? (.admitted call :: earlier) = some call := rfl
      rw [History.lastReason, hlast, Option.bind_some, History.reasonOf?_cons_of_none rfl,
        reasonOf?_of_stage_eq_none hs hstage]
      rfl
    | rejected call =>
      obtain ⟨-, -, rfl⟩ := after?_rejected_eq_some_iff.mp hevent
      rw [History.lastReason_cons_of_none rfl rfl]
      exact hbefore
    | committed call outcome =>
      obtain ⟨hstage, rfl⟩ := after?_committed_eq_some_iff.mp hevent
      rw [session_move, Session.error_commit, hbefore]
      cases hreason : outcome.error? with
      | none =>
        have hnone : (Event.committed call outcome).reason? = none := hreason
        exact (History.lastReason_cons_of_none rfl hnone earlier).symm
      | some reason =>
        -- The call holds the session, so it is the one that was admitted last.
        have hholds : s.Holds call := by simp [Holds, hstage, Stage.holds]
        have hlast : History.lastAdmitted? (.committed call outcome :: earlier) = some call :=
          (heldByLast_of_run? hs).last call hholds
        have hcall : History.reasonOf? (.committed call outcome :: earlier) call = some reason := by
          rw [History.reasonOf?, List.filter_cons_of_pos (by simp [Event.call]),
            List.findSome?_cons, Event.reason?, hreason]
        rw [Option.getD_some, History.lastReason, hlast, Option.bind_some, hcall, Option.getD_some]
    | released call =>
      obtain ⟨-, -, rfl⟩ := after?_released_eq_some_iff.mp hevent
      rw [History.lastReason_cons_of_none rfl rfl]
      exact hbefore
    | dropped call =>
      obtain ⟨-, rfl⟩ := after?_dropped_eq_some_iff.mp hevent
      rw [History.lastReason_cons_of_none rfl rfl]
      exact hbefore

/-! ## Without rejected calls -/

/-- The traffic in which the calls that were rejected have never been started. -/
def withoutRejected (t : Traffic) : Traffic where
  session := t.session
  stage call :=
    match t.stage call with
    | some (.returned none) => none
    | stage => stage

/-- Every other call stands where it stood. -/
theorem stage_withoutRejected_of_ne (h : t.stage call ≠ some (.returned none)) :
    t.withoutRejected.stage call = t.stage call := by
  simp only [withoutRejected]

/-- A call that moves otherwise than by being rejected moves in the same way. -/
theorem withoutRejected_move (session : Session) {stage : Stage} (h : stage ≠ .returned none) :
    (t.move session call stage).withoutRejected = t.withoutRejected.move session call stage := by
  rw [withoutRejected, move, Traffic.mk.injEq]
  refine ⟨rfl, funext fun other => ?_⟩
  by_cases hother : other = call
  · subst hother
    simp only [stage_move_self, if_true]
    split
    · rename_i hstage
      exact absurd (Option.some.inj hstage) h
    · rfl
  · simp only [stage_move_of_ne session stage hother, if_neg hother]
    rfl

/-- A call that is rejected changes nothing else. -/
theorem withoutRejected_after?_rejected (h : t.after? (.rejected call) = some t') :
    t'.withoutRejected = t.withoutRejected := by
  obtain ⟨hstage, -, rfl⟩ := after?_rejected_eq_some_iff.mp h
  rw [withoutRejected, withoutRejected, Traffic.mk.injEq]
  refine ⟨rfl, funext fun other => ?_⟩
  by_cases hother : other = call
  · subst hother
    rw [stage_move_self, hstage]
  · rw [stage_move_of_ne _ _ hother]

/-- Every other moment can come without the rejected calls too, and changes the same. -/
theorem withoutRejected_after? (h : t.after? event = some t') (hevent : event.isRejected = false) :
    t.withoutRejected.after? event = some t'.withoutRejected := by
  cases event with
  | admitted call =>
    obtain ⟨hstage, hfree, rfl⟩ := after?_admitted_eq_some_iff.mp h
    refine after?_admitted_eq_some_iff.mpr ⟨?_, hfree, withoutRejected_move _ nofun⟩
    rw [stage_withoutRejected_of_ne (by simp [hstage]), hstage]
  | rejected call => exact absurd hevent (by simp [Event.isRejected])
  | committed call outcome =>
    obtain ⟨hstage, rfl⟩ := after?_committed_eq_some_iff.mp h
    refine after?_committed_eq_some_iff.mpr ⟨?_, withoutRejected_move _ nofun⟩
    rw [stage_withoutRejected_of_ne (by simp [hstage]), hstage]
  | released call =>
    obtain ⟨outcome, hstage, rfl⟩ := after?_released_eq_some_iff.mp h
    refine after?_released_eq_some_iff.mpr ⟨outcome, ?_, withoutRejected_move _ nofun⟩
    rw [stage_withoutRejected_of_ne (by simp [hstage]), hstage]
  | dropped call =>
    obtain ⟨hstage, rfl⟩ := after?_dropped_eq_some_iff.mp h
    refine after?_dropped_eq_some_iff.mpr ⟨?_, withoutRejected_move _ nofun⟩
    rw [stage_withoutRejected_of_ne (by simp [hstage]), hstage]

/-- A history without the rejected calls leads to the traffic without them. -/
theorem run?_withoutRejected (h : run? history = some t) :
    run? history.withoutRejected = some t.withoutRejected := by
  induction history generalizing t with
  | nil =>
    obtain rfl := Option.some.inj h
    rfl
  | cons event earlier ih =>
    obtain ⟨s, hs, hevent⟩ := run?_cons_eq_some_iff.mp h
    cases hrejected : event.isRejected with
    | false =>
      rw [History.withoutRejected, List.filter_cons_of_pos (by simp [hrejected])]
      exact run?_cons_eq_some_iff.mpr ⟨_, ih hs, withoutRejected_after? hevent hrejected⟩
    | true =>
      obtain ⟨call, rfl⟩ : ∃ call, event = .rejected call := by
        cases event <;> first | exact ⟨_, rfl⟩ | exact absurd hrejected Bool.false_ne_true
      rw [History.withoutRejected, List.filter_cons_of_neg (by simp [hrejected]),
        withoutRejected_after?_rejected hevent]
      exact ih hs

/-! ## Only what was committed counts -/

/-- Whatever has happened: the sketch is that of the success committed last, and the error the reason
of the call admitted last, if a failure was committed for it. So only a committed success changes the
sketch; a rejected call changes nothing but where it stands itself; and without the rejected calls the
same history leads to the same session, with every other call at the same stage. -/
theorem session_eq_last_committed (h : run? history = some t) :
    t.session.current = history.lastSketch? ∧
    t.session.error = history.lastReason ∧
    (∀ event t', t.after? event = some t' → event.sketch? = none →
      t'.session.current = t.session.current) ∧
    (∀ call t', t.after? (.rejected call) = some t' →
      t'.session = t.session ∧ ∀ other, other ≠ call → t'.stage other = t.stage other) ∧
    ∃ t', run? history.withoutRejected = some t' ∧ t'.session = t.session ∧
      ∀ call, .rejected call ∉ history → t'.stage call = t.stage call := by
  refine ⟨current_of_run? h, error_of_run? h, ?_, ?_, ?_⟩
  · intro event t' hevent hsketch
    rw [current_after? hevent, hsketch, Option.none_or]
  · intro call t' hrejected
    refine ⟨?_, fun other hother => stage_after?_of_ne hrejected hother⟩
    obtain ⟨-, -, rfl⟩ := after?_rejected_eq_some_iff.mp hrejected
    rfl
  · refine ⟨_, run?_withoutRejected h, rfl, fun call hcall => ?_⟩
    refine stage_withoutRejected_of_ne fun hstage => hcall ?_
    rw [mem_history_iff h, Event.call, hstage, course]
    exact List.mem_singleton_self _

/-- A sample page is committed while another call is rejected, and then a call fails: the sketch stays,
and the error is the reason of the failure. -/
theorem session_eq_last_committed_failure :
    ∃ t, run? [.committed 2 ⟨.failure (.http 500), []⟩, .admitted 2, .released 0, .rejected 1,
        .committed 0 ⟨.success Sample.sketch .sample, []⟩, .admitted 0] = some t ∧
      t.session.current = some Sample.sketch ∧ t.session.error = (Failure.http 500).message := by
  have h : run? [.committed 2 ⟨.failure (.http 500), []⟩, .admitted 2, .released 0, .rejected 1,
      .committed 0 ⟨.success Sample.sketch .sample, []⟩, .admitted 0] = some _ := rfl
  obtain ⟨hcurrent, herror, -⟩ := session_eq_last_committed h
  exact ⟨_, h, hcurrent, herror⟩

end Traffic

end PageSketch
