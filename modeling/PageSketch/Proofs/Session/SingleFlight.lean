import PageSketch.Proofs.Session.Traffic

/-!
# Single flight

However the moments of calls interleave, at most one call is in flight, and the session is generating
exactly while one is. What carries this through every moment is who holds the session: while it is
generating, that is the call that was admitted last, and no other.
-/

namespace PageSketch

/-! ## What a history says -/

/-- The call that a moment admits. -/
def Event.admitted? : Event → Option Nat
  | admitted call => some call
  | _ => none

namespace History

/-- The call that was admitted last. -/
def lastAdmitted? (history : History) : Option Nat := history.findSome? Event.admitted?

/-- Whether a call has been started. -/
def Started (history : History) (call : Nat) : Prop :=
  .admitted call ∈ history ∨ .rejected call ∈ history

/-- Whether a call has come back, with an outcome or with none, or has been dropped. -/
def Ended (history : History) (call : Nat) : Prop :=
  .released call ∈ history ∨ .rejected call ∈ history ∨ .dropped call ∈ history

/-- Whether a call has been admitted and has been neither released nor dropped. -/
def InFlight (history : History) (call : Nat) : Prop :=
  .admitted call ∈ history ∧ .released call ∉ history ∧ .dropped call ∉ history

end History

namespace Traffic

variable {t t' : Traffic} {history : History} {call other : Nat} {event : Event}

/-- A call has been started when it stands somewhere. -/
theorem started_iff (h : run? history = some t) : history.Started call ↔ t.stage call ≠ none := by
  rw [History.Started, mem_history_iff h, mem_history_iff h, Event.call, Event.call]
  rcases t.stage call with _ | _ | _ | (_ | _) | _ <;> simp [course]

/-- A call has ended when it has been started and holds the session no more. -/
theorem ended_iff (h : run? history = some t) :
    history.Ended call ↔ history.Started call ∧ ¬t.Holds call := by
  rw [started_iff h, History.Ended, mem_history_iff h, mem_history_iff h, mem_history_iff h, Holds]
  simp only [Event.call]
  rcases t.stage call with _ | _ | _ | (_ | _) | _ <;> simp [course, Stage.holds]

/-- A call is in flight while it holds the session. -/
theorem inFlight_iff (h : run? history = some t) : history.InFlight call ↔ t.Holds call := by
  rw [History.InFlight, mem_history_iff h, mem_history_iff h, mem_history_iff h, Holds]
  simp only [Event.call]
  rcases t.stage call with _ | _ | _ | (_ | _) | _ <;> simp [course, Stage.holds]

/-! ## Who holds the session -/

/-- A call that moves holds the session or not, and all others as before. -/
theorem holds_move_iff {session : Session} {stage : Stage} :
    (t.move session call stage).Holds other ↔
      other = call ∧ stage.holds = true ∨ other ≠ call ∧ t.Holds other := by
  by_cases h : other = call
  · subst h
    simp [Holds]
  · simp [Holds, stage_move_of_ne session stage h, h]

/-- Whether a session is generating exactly while a call holds it, and only the call that was admitted
last can hold it. -/
structure HeldByLast (history : History) (t : Traffic) : Prop where
  generating : t.session.isGenerating = true ↔ ∃ call, t.Holds call
  last : ∀ call, t.Holds call → history.lastAdmitted? = some call

/-- At most one call holds the session. -/
theorem HeldByLast.unique (h : HeldByLast history t) (hcall : t.Holds call)
    (hother : t.Holds other) : other = call := by
  have hlast : some other = some call := (h.last other hother).symm.trans (h.last call hcall)
  exact Option.some.inj hlast

/-- The call that holds the session gives it back. -/
theorem HeldByLast.give (h : HeldByLast history t) (hcall : t.Holds call) (stage : Stage)
    (hstage : stage.holds = false) :
    ∀ other, ¬(t.move t.session.release call stage).Holds other := by
  intro other hother
  rcases holds_move_iff.mp hother with ⟨-, hholds⟩ | ⟨hne, hholds⟩
  · rw [hstage] at hholds
    exact Bool.false_ne_true hholds
  · exact hne (h.unique hcall hholds)

/-- Every moment keeps it so. -/
theorem HeldByLast.after (h : HeldByLast history t) (hevent : t.after? event = some t') :
    HeldByLast (event :: history) t' := by
  cases event with
  | admitted call =>
    obtain ⟨-, hfree, rfl⟩ := after?_admitted_eq_some_iff.mp hevent
    -- Nobody held the session before, so that this call alone does now.
    have hnobody : ∀ other, ¬t.Holds other := by
      intro other hother
      rw [h.generating.mpr ⟨other, hother⟩] at hfree
      exact Bool.false_ne_true hfree.symm
    refine ⟨iff_of_true rfl ⟨call, ?_⟩, fun other hother => ?_⟩
    · exact holds_move_iff.mpr (.inl ⟨rfl, rfl⟩)
    · rcases holds_move_iff.mp hother with ⟨rfl, -⟩ | ⟨-, hholds⟩
      · rfl
      · exact absurd hholds (hnobody other)
  | rejected call =>
    obtain ⟨hstage, -, rfl⟩ := after?_rejected_eq_some_iff.mp hevent
    have hsame : ∀ other, (t.move t.session call (.returned none)).Holds other ↔ t.Holds other := by
      intro other
      rw [holds_move_iff]
      by_cases hother : other = call
      · subst hother
        simp [Holds, hstage, Stage.holds]
      · simp [hother]
    refine ⟨?_, fun other hother => h.last other ((hsame other).mp hother)⟩
    simp only [session_move, hsame]
    exact h.generating
  | committed call outcome =>
    obtain ⟨hstage, rfl⟩ := after?_committed_eq_some_iff.mp hevent
    have hholds : t.Holds call := by simp [Holds, hstage, Stage.holds]
    refine ⟨?_, fun other hother => ?_⟩
    · rw [session_move, Session.isGenerating_commit]
      refine iff_of_true (h.generating.mpr ⟨call, hholds⟩) ⟨call, ?_⟩
      exact holds_move_iff.mpr (.inl ⟨rfl, rfl⟩)
    · rcases holds_move_iff.mp hother with ⟨rfl, -⟩ | ⟨-, hother⟩
      · exact h.last _ hholds
      · exact h.last _ hother
  | released call =>
    obtain ⟨outcome, hstage, rfl⟩ := after?_released_eq_some_iff.mp hevent
    have hholds : t.Holds call := by simp [Holds, hstage, Stage.holds]
    have hnobody := h.give hholds (.returned (some outcome)) rfl
    exact ⟨iff_of_false Bool.false_ne_true (fun ⟨other, hother⟩ => hnobody other hother),
      fun other hother => absurd hother (hnobody other)⟩
  | dropped call =>
    obtain ⟨hstage, rfl⟩ := after?_dropped_eq_some_iff.mp hevent
    have hholds : t.Holds call := by simp [Holds, hstage, Stage.holds]
    have hnobody := h.give hholds .dropped rfl
    exact ⟨iff_of_false Bool.false_ne_true (fun ⟨other, hother⟩ => hnobody other hother),
      fun other hother => absurd hother (hnobody other)⟩

/-- Every history keeps it so. -/
theorem heldByLast_of_run? (h : run? history = some t) : HeldByLast history t := by
  induction history generalizing t with
  | nil =>
    obtain rfl := Option.some.inj h
    exact ⟨iff_of_false Bool.false_ne_true (fun ⟨_, hholds⟩ => Bool.false_ne_true hholds),
      fun _ hholds => absurd hholds Bool.false_ne_true⟩
  | cons event earlier ih =>
    obtain ⟨s, hs, hevent⟩ := run?_cons_eq_some_iff.mp h
    exact (ih hs).after hevent

/-! ## Starting and finishing -/

/-- A call that starts is admitted exactly when no call holds the session. -/
theorem exists_admitted_iff (h : HeldByLast history t) (hcall : t.stage call = none) :
    (∃ t', t.after? (.admitted call) = some t') ↔ ∀ other, ¬t.Holds other := by
  simp only [after?_admitted_eq_some_iff, hcall, true_and, exists_and_left, exists_eq, and_true]
  rw [← Bool.not_eq_true, h.generating, not_exists]

/-- A call that starts is rejected exactly when some call holds the session. -/
theorem exists_rejected_iff (h : HeldByLast history t) (hcall : t.stage call = none) :
    (∃ t', t.after? (.rejected call) = some t') ↔ ∃ other, t.Holds other := by
  simp only [after?_rejected_eq_some_iff, hcall, true_and, exists_and_left, exists_eq, and_true]
  exact h.generating

/-- A call that is rejected comes back at once, and without an outcome. -/
theorem result?_of_rejected (h : t.after? (.rejected call) = some t') :
    t'.result? call = some none := by
  obtain ⟨-, -, rfl⟩ := after?_rejected_eq_some_iff.mp h
  rw [result?, stage_move_self]

/-- A call that holds the session gives it back by its own moments alone, whatever its outcome is. -/
theorem exists_run?_finish (h : run? history = some t) (hcall : t.Holds call) (outcome : Outcome) :
    ∃ later t', (later = [.released call] ∨ later = [.released call, .committed call outcome]) ∧
      run? (later ++ history) = some t' ∧ t'.session.isGenerating = false := by
  cases hstage : t.stage call with
  | none => simp [Holds, hstage] at hcall
  | some stage =>
    cases stage with
    | waiting => exact ⟨_, _, .inr rfl, run?_finish h hstage outcome, rfl⟩
    | committed earlier =>
      have hreleased := after?_released_eq_some_iff.mpr ⟨earlier, hstage, rfl⟩
      exact ⟨_, _, .inl rfl, run?_cons_eq_some_iff.mpr ⟨t, h, hreleased⟩, rfl⟩
    | returned _ | dropped => simp [Holds, hstage, Stage.holds] at hcall

/-! ## One call at a time -/

/-- Whatever has happened: the session is generating exactly when one call, and no other, is in flight;
a call that starts now is admitted exactly when none is, and otherwise comes back without an outcome
and with the busy line; once every call that was started has ended nothing is generating; and a call
in flight has only to finish for that, whatever becomes of the others. -/
theorem generating_iff_one_in_flight (h : run? history = some t) :
    (t.session.isGenerating = true ↔
      ∃ call, history.InFlight call ∧ ∀ other, history.InFlight other → other = call) ∧
    (t.session.isGenerating = false ↔ ∀ call, ¬history.InFlight call) ∧
    (∀ call other, history.InFlight call → history.InFlight other → other = call) ∧
    (∀ call, ¬history.Started call →
      ((∃ t', t.after? (.admitted call) = some t') ↔ ∀ other, ¬history.InFlight other) ∧
      ((∃ t', t.after? (.rejected call) = some t') ↔ ∃ other, history.InFlight other)) ∧
    (∀ call t', t.after? (.rejected call) = some t' →
      t'.result? call = some none ∧
      (t'.result? call).map Session.statusLine = some StatusLine.busy) ∧
    ((∀ call, history.Started call → history.Ended call) → t.session.isGenerating = false) ∧
    (∀ call outcome, history.InFlight call → ∃ later t',
      (later = [.released call] ∨ later = [.released call, .committed call outcome]) ∧
      run? (later ++ history) = some t' ∧ t'.session.isGenerating = false) := by
  have hheld := heldByLast_of_run? h
  have hfree : t.session.isGenerating = false ↔ ∀ call, ¬t.Holds call := by
    rw [← Bool.not_eq_true, hheld.generating, not_exists]
  simp only [inFlight_iff h]
  refine ⟨?_, hfree, fun _ _ => hheld.unique, ?_, ?_, ?_, ?_⟩
  · rw [hheld.generating]
    constructor
    · rintro ⟨call, hcall⟩
      exact ⟨call, hcall, fun other => hheld.unique hcall⟩
    · rintro ⟨call, hcall, -⟩
      exact ⟨call, hcall⟩
  · intro call hstarted
    rw [started_iff h, Classical.not_not] at hstarted
    exact ⟨exists_admitted_iff hheld hstarted, exists_rejected_iff hheld hstarted⟩
  · intro call t' hrejected
    have hresult := result?_of_rejected hrejected
    exact ⟨hresult, by rw [hresult]; rfl⟩
  · intro hended
    refine hfree.mpr fun call hcall => ?_
    have hstarted : history.Started call := by
      rw [started_iff h]
      intro hnone
      simp [Holds, hnone] at hcall
    exact ((ended_iff h).mp (hended call hstarted)).2 hcall
  · exact fun call outcome hcall => exists_run?_finish h hcall outcome

/-- While a call waits, another one that starts cannot be admitted and is rejected. -/
theorem generating_iff_one_in_flight_overlap :
    ∃ t, run? [.admitted 0] = some t ∧
      ¬(∃ t', t.after? (.admitted 1) = some t') ∧ ∃ t', t.after? (.rejected 1) = some t' := by
  have h : run? [.admitted 0] = some (quiet.move ⟨true, none, ""⟩ 0 .waiting) := rfl
  obtain ⟨-, -, -, hstart, -⟩ := generating_iff_one_in_flight h
  have hflight : History.InFlight [.admitted 0] 0 := by simp [History.InFlight]
  obtain ⟨hadmitted, hrejected⟩ := hstart 1 (by simp [History.Started])
  exact ⟨_, h, fun hnow => hadmitted.mp hnow 0 hflight, hrejected.mpr ⟨0, hflight⟩⟩

end Traffic

end PageSketch
