/-!
# Outcomes

When a computation that may fail ends well, told from its parts.
-/

namespace PageSketch

variable {ε α β : Type}

/-- A changed result comes from a result. -/
@[simp] theorem map_eq_ok_iff {f : α → β} {x : Except ε α} {b : β} :
    x.map f = .ok b ↔ ∃ a, x = .ok a ∧ f a = b := by
  cases x <;> simp [Except.map]

/-- Two steps end well when both do. -/
@[simp] theorem bind_eq_ok_iff {f : α → Except ε β} {x : Except ε α} {b : β} :
    x >>= f = .ok b ↔ ∃ a, x = .ok a ∧ f a = .ok b := by
  cases x <;> simp [bind, Except.bind]

/-- Returning a value ends well with it. -/
@[simp] theorem pure_eq_ok_iff {a b : α} : (pure a : Except ε α) = .ok b ↔ a = b := by
  simp [pure, Except.pure]

/-- All of a list ends well when each does. -/
theorem exists_map_eq_map_ok_iff {f : α → Except ε β} {as : List α} :
    (∃ bs : List β, as.map f = bs.map .ok) ↔ ∀ a ∈ as, ∃ b, f a = .ok b := by
  induction as with
  | nil => simp
  | cons a as ih =>
    rw [List.forall_mem_cons, ← ih]
    constructor
    · rintro ⟨_ | ⟨b, bs⟩, h⟩
      · simp at h
      · obtain ⟨hb, hbs⟩ := List.cons.inj h
        exact ⟨⟨b, hb⟩, bs, hbs⟩
    · rintro ⟨⟨b, hb⟩, bs, hbs⟩
      exact ⟨b :: bs, by rw [List.map_cons, List.map_cons, hb, hbs]⟩

/-- What ends well for each of a list carries over to another computation. -/
theorem map_eq_map_ok_of_forall {γ : Type} {f : α → Except ε β} {g : α → Except ε γ} {k : β → γ}
    {as : List α} {bs : List β} (h : as.map f = bs.map .ok)
    (hg : ∀ a ∈ as, ∀ b, f a = .ok b → g a = .ok (k b)) : as.map g = (bs.map k).map .ok := by
  induction as generalizing bs with
  | nil =>
    obtain rfl : bs = [] := by simpa using h.symm
    rfl
  | cons a as ih =>
    cases bs with
    | nil => simp at h
    | cons b bs =>
      obtain ⟨hb, hbs⟩ := List.cons.inj h
      rw [List.map_cons, List.map_cons, List.map_cons, hg a List.mem_cons_self b hb,
        ih hbs fun a ha => hg a (List.mem_cons_of_mem _ ha)]

end PageSketch
