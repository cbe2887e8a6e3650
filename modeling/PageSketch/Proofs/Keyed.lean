import PageSketch.Keyed

/-!
# Laws of lists with keys

A list with ascending keys is determined by what stands under each key. Putting members into such
a list one after another leaves the last value of every key, so the result depends on nothing but
those last values: this is what makes two ways of keeping every key once comparable.
-/

namespace PageSketch

variable {α β : Type}

/-- Whether every key stands once. -/
def KeysOnce (members : List (String × α)) : Prop := (members.map Prod.fst).Nodup

/-- Whether a key does not stand twice. -/
def AtMostOnce (key : String) (members : List (String × α)) : Prop :=
  (members.map Prod.fst).count key ≤ 1

/-- The last value under a key. -/
def lastAt? (key : String) : List (String × α) → Option α
  | [] => none
  | (k, v) :: rest => (lastAt? key rest).or (if k = key then some v else none)

/-- The members with every value changed by a function. -/
def mapValues (f : α → β) (members : List (String × α)) : List (String × β) :=
  members.map fun member => (member.1, f member.2)

/-! ## Values under keys -/

/-- Nothing stands under a key that is not there. -/
theorem valueAt?_eq_none_iff {key : String} {members : List (String × α)} :
    valueAt? key members = none ↔ key ∉ members.map Prod.fst := by
  induction members with
  | nil => simp [valueAt?]
  | cons member rest ih =>
    obtain ⟨k, v⟩ := member
    by_cases h : k = key
    · simp [valueAt?, h]
    · simp [valueAt?, h, ih, Ne.symm h]

/-- What stands under a key is a member. -/
theorem mem_of_valueAt?_eq_some {key : String} {value : α} {members : List (String × α)}
    (h : valueAt? key members = some value) : (key, value) ∈ members := by
  induction members with
  | nil => simp [valueAt?] at h
  | cons member rest ih =>
    obtain ⟨k, v⟩ := member
    by_cases hk : k = key
    · simp only [valueAt?, hk, if_true, Option.some.injEq] at h
      simp [hk, h]
    · simp only [valueAt?, hk, if_false] at h
      exact List.mem_cons_of_mem _ (ih h)

/-- A key that is not there has no last value. -/
theorem lastAt?_eq_none_iff {key : String} {members : List (String × α)} :
    lastAt? key members = none ↔ key ∉ members.map Prod.fst := by
  induction members with
  | nil => simp [lastAt?]
  | cons member rest ih =>
    obtain ⟨k, v⟩ := member
    by_cases h : k = key
    · simp [lastAt?, h]
    · simp [lastAt?, h, ih, Ne.symm h]

/-- What stands last under a key is a member. -/
theorem mem_of_lastAt?_eq_some {key : String} {value : α} {members : List (String × α)}
    (h : lastAt? key members = some value) : (key, value) ∈ members := by
  induction members with
  | nil => simp [lastAt?] at h
  | cons member rest ih =>
    obtain ⟨k, v⟩ := member
    rw [lastAt?, Option.or_eq_some_iff] at h
    rcases h with h | ⟨-, h⟩
    · exact List.mem_cons_of_mem _ (ih h)
    · by_cases hk : k = key
      · simp only [hk, if_true, Option.some.injEq] at h
        simp [hk, h]
      · simp [hk] at h

/-- The first value under a key of two lists is that of the first one, if it has one. -/
theorem valueAt?_append (key : String) (members others : List (String × α)) :
    valueAt? key (members ++ others) = (valueAt? key members).or (valueAt? key others) := by
  induction members with
  | nil => simp [valueAt?]
  | cons member rest ih =>
    obtain ⟨k, v⟩ := member
    by_cases h : k = key
    · simp [valueAt?, h]
    · simp [valueAt?, h, ih]

/-- A member does not show under other keys. -/
theorem valueAt?_append_cons_of_ne {key name : String} (h : key ≠ name) (value : α)
    (members others : List (String × α)) :
    valueAt? name (members ++ (key, value) :: others) = valueAt? name (members ++ others) := by
  rw [valueAt?_append, valueAt?_append, valueAt?, if_neg h]

/-- A member shows under its key when the key does not stand before it. -/
theorem valueAt?_append_cons_self {key : String} {members : List (String × α)}
    (h : key ∉ members.map Prod.fst) (value : α) (others : List (String × α)) :
    valueAt? key (members ++ (key, value) :: others) = some value := by
  rw [valueAt?_append, valueAt?_eq_none_iff.mpr h, Option.none_or, valueAt?, if_pos rfl]

/-- Another value under a key does not show under other keys. -/
theorem valueAt?_replaced {key name : String} (h : key ≠ name) (v w : α)
    (members others : List (String × α)) :
    valueAt? name (members ++ (key, w) :: others) =
      valueAt? name (members ++ (key, v) :: others) := by
  rw [valueAt?_append_cons_of_ne h, valueAt?_append_cons_of_ne h]

/-- Where every key stands once, none stands twice. -/
theorem KeysOnce.atMostOnce {members : List (String × α)} (h : KeysOnce members) (key : String) :
    AtMostOnce key members :=
  List.nodup_iff_count.mp h key

/-- A key does not stand twice in a list with one more member when it does not in the list, and not
at all if it is the key of that member. -/
theorem atMostOnce_append_cons_iff {key name : String} {value : α}
    {members others : List (String × α)} :
    AtMostOnce name (members ++ (key, value) :: others) ↔
      (key = name → name ∉ members.map Prod.fst ∧ name ∉ others.map Prod.fst) ∧
      AtMostOnce name (members ++ others) := by
  simp only [AtMostOnce, List.map_append, List.map_cons, List.count_append]
  by_cases hkey : key = name
  · rw [hkey, List.count_cons_self, ← List.count_eq_zero, ← List.count_eq_zero]
    constructor
    · intro h
      exact ⟨fun _ => ⟨by omega, by omega⟩, by omega⟩
    · rintro ⟨h, -⟩
      obtain ⟨hmembers, hothers⟩ := h rfl
      omega
  · rw [List.count_cons_of_ne hkey]
    simp [hkey]

/-- Where every key stands once, the value of a member is what stands under its key. -/
theorem KeysOnce.valueAt?_eq {key : String} {value : α} {members others : List (String × α)}
    (h : KeysOnce (members ++ (key, value) :: others)) :
    valueAt? key (members ++ (key, value) :: others) = some value :=
  valueAt?_append_cons_self ((atMostOnce_append_cons_iff.mp (h.atMostOnce key)).1 rfl).1 ..

/-- The same for a first member. -/
theorem atMostOnce_cons_iff {key name : String} {value : α} {members : List (String × α)} :
    AtMostOnce name ((key, value) :: members) ↔
      (key = name → name ∉ members.map Prod.fst) ∧ AtMostOnce name members := by
  simpa using @atMostOnce_append_cons_iff α key name value [] members

/-- A key that does not stand twice has one value, which is the first and the last. -/
theorem AtMostOnce.lastAt?_eq {key : String} {members : List (String × α)}
    (h : AtMostOnce key members) : lastAt? key members = valueAt? key members := by
  induction members with
  | nil => rfl
  | cons member rest ih =>
    obtain ⟨k, v⟩ := member
    obtain ⟨hnot, hrest⟩ := atMostOnce_cons_iff.mp h
    by_cases hk : k = key
    · simp [lastAt?, valueAt?, hk, lastAt?_eq_none_iff.mpr (hnot hk)]
    · simp [lastAt?, valueAt?, hk, ih hrest]

/-- A key that stands once has one value, which is the first and the last. -/
theorem KeysOnce.lastAt?_eq {members : List (String × α)} (h : KeysOnce members) (key : String) :
    lastAt? key members = valueAt? key members :=
  (h.atMostOnce key).lastAt?_eq

/-- Ascending keys stand once. -/
theorem Ascending.keysOnce {members : List (String × α)} (h : Ascending members) :
    KeysOnce members := by
  unfold KeysOnce
  rw [List.Nodup, List.pairwise_map]
  refine h.imp ?_
  intro first second hlt heq
  rw [heq] at hlt
  exact String.lt_irrefl _ hlt

/-! ## Ascending keys -/

/-- Behind an ascending member there is nothing under a key that is not greater. -/
theorem Ascending.valueAt?_tail {first : String × α} {rest : List (String × α)}
    (h : Ascending (first :: rest)) {key : String} (hkey : ¬first.1 < key) :
    valueAt? key rest = none := by
  rw [valueAt?_eq_none_iff]
  intro hmem
  obtain ⟨member, hmember, rfl⟩ := List.mem_map.mp hmem
  exact hkey ((List.pairwise_cons.mp h).1 member hmember)

/-- A list with ascending keys is determined by what stands under each key. -/
theorem Ascending.ext {left right : List (String × α)} (hleft : Ascending left)
    (hright : Ascending right) (h : ∀ key, valueAt? key left = valueAt? key right) :
    left = right := by
  induction left generalizing right with
  | nil =>
    cases right with
    | nil => rfl
    | cons second others => simpa [valueAt?] using h second.1
  | cons first rest ih =>
    cases right with
    | nil => simpa [valueAt?] using h first.1
    | cons second others =>
      obtain ⟨k, v⟩ := first
      obtain ⟨l, w⟩ := second
      -- The smaller of the two first keys would be missing on the other side.
      have hkl : k = l := by
        refine Decidable.byContradiction fun hne => ?_
        by_cases hlt : k < l
        · have hnone := hright.valueAt?_tail (String.lt_asymm hlt)
          have hk := h k
          simp [valueAt?, Ne.symm hne, hnone] at hk
        · have hnone := hleft.valueAt?_tail hlt
          have hl := h l
          simp [valueAt?, hne, hnone] at hl
      subst hkl
      have hvw : v = w := by simpa [valueAt?] using h k
      subst hvw
      have hrest : ∀ key, valueAt? key rest = valueAt? key others := by
        intro key
        by_cases hkey : k = key
        · subst hkey
          rw [hleft.valueAt?_tail (String.lt_irrefl k), hright.valueAt?_tail (String.lt_irrefl k)]
        · simpa [valueAt?, hkey] using h key
      rw [ih (List.pairwise_cons.mp hleft).2 (List.pairwise_cons.mp hright).2 hrest]

/-- Changing the values keeps the keys ascending. -/
theorem Ascending.mapValues (f : α → β) {members : List (String × α)} (h : Ascending members) :
    Ascending (mapValues f members) := by
  unfold Ascending PageSketch.mapValues
  rw [List.pairwise_map]
  exact h

/-! ## Setting keys -/

/-- A new key is set behind the others. -/
theorem put_of_not_mem {key : String} {value : α} {members : List (String × α)}
    (h : key ∉ members.map Prod.fst) : put key value members = members ++ [(key, value)] := by
  induction members with
  | nil => rfl
  | cons member rest ih =>
    simp only [List.map_cons, List.mem_cons, not_or] at h
    simp [put, Ne.symm h.1, ih h.2]

/-- A member after a setting is the one that was set or an old one. -/
theorem mem_put {key : String} {value : α} {members : List (String × α)} {member : String × α}
    (h : member ∈ put key value members) : member = (key, value) ∨ member ∈ members := by
  induction members with
  | nil => exact .inl (by simpa [put] using h)
  | cons first rest ih =>
    unfold put at h
    split at h
    · exact (List.mem_cons.mp h).imp id (List.mem_cons_of_mem _)
    · rcases List.mem_cons.mp h with h | h
      · exact .inr (h ▸ List.mem_cons_self)
      · exact (ih h).imp id (List.mem_cons_of_mem _)

/-- Setting a key keeps every key once. -/
theorem KeysOnce.put {key : String} {value : α} {members : List (String × α)}
    (h : KeysOnce members) : KeysOnce (put key value members) := by
  induction members with
  | nil => simp [PageSketch.put, KeysOnce]
  | cons member rest ih =>
    obtain ⟨k, v⟩ := member
    by_cases hk : k = key
    · simpa [PageSketch.put, hk, KeysOnce] using h
    · obtain ⟨hnot, hrest⟩ := List.nodup_cons.mp h
      simp only [PageSketch.put, hk, if_false, KeysOnce, List.map_cons, List.nodup_cons]
      refine ⟨?_, ih hrest⟩
      rw [← valueAt?_eq_none_iff] at hnot ⊢
      rw [valueAt?_put_of_ne hk]
      exact hnot

end PageSketch
