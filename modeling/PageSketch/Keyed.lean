/-!
# Lists with keys

A list of members in which every key stands once is a finite map with an order. `put` keeps the
place of a key and replaces its value, `putSorted` keeps the keys in ascending order; both change
what stands under their own key and nothing else. `Ascending` says that every key stands once and
behind the smaller ones.
-/

namespace PageSketch

/-- Sets a key: in its place if it is there, else behind the others. -/
def put {α : Type} (key : String) (value : α) : List (String × α) → List (String × α)
  | [] => [(key, value)]
  | (k, v) :: rest => if k = key then (key, value) :: rest else (k, v) :: put key value rest

/-- Sets a key in a list with ascending keys. -/
def putSorted {α : Type} (key : String) (value : α) : List (String × α) → List (String × α)
  | [] => [(key, value)]
  | (k, v) :: rest =>
    if key < k then (key, value) :: (k, v) :: rest
    else if key = k then (key, value) :: rest
    else (k, v) :: putSorted key value rest

/-- The first value under a key. -/
def valueAt? {α : Type} (key : String) : List (String × α) → Option α
  | [] => none
  | (k, v) :: rest => if k = key then some v else valueAt? key rest

/-- The members without those under a key. -/
def without {α : Type} (key : String) (members : List (String × α)) : List (String × α) :=
  members.filter fun member => member.1 ≠ key

/-- Setting a key shows under that key. -/
theorem valueAt?_put_self {α : Type} (key : String) (value : α) (members : List (String × α)) :
    valueAt? key (put key value members) = some value := by
  induction members with
  | nil => simp [put, valueAt?]
  | cons member rest ih =>
    by_cases h : member.1 = key <;> simp [put, valueAt?, h, ih]

/-- Setting a key leaves the other keys alone. -/
theorem valueAt?_put_of_ne {α : Type} {key other : String} (h : other ≠ key) (value : α)
    (members : List (String × α)) :
    valueAt? other (put key value members) = valueAt? other members := by
  induction members with
  | nil => simp [put, valueAt?, h.symm]
  | cons member rest ih =>
    by_cases hk : member.1 = key
    · simp [put, valueAt?, hk, h.symm]
    · simp [put, valueAt?, hk, ih]

/-- Setting a key in ascending order shows under that key. -/
theorem valueAt?_putSorted_self {α : Type} (key : String) (value : α)
    (members : List (String × α)) : valueAt? key (putSorted key value members) = some value := by
  induction members with
  | nil => simp [putSorted, valueAt?]
  | cons member rest ih =>
    unfold putSorted
    split
    · simp [valueAt?]
    · split
      · simp [valueAt?]
      · rename_i h
        simp [valueAt?, Ne.symm h, ih]

/-- Setting a key in ascending order leaves the other keys alone. -/
theorem valueAt?_putSorted_of_ne {α : Type} {key other : String} (h : other ≠ key) (value : α)
    (members : List (String × α)) :
    valueAt? other (putSorted key value members) = valueAt? other members := by
  induction members with
  | nil => simp [putSorted, valueAt?, h.symm]
  | cons member rest ih =>
    unfold putSorted
    split
    · simp [valueAt?, h.symm]
    · split
      · rename_i hk
        simp [valueAt?, h.symm, ← hk]
      · simp [valueAt?, ih]

/-! ## Ascending keys -/

/-- Whether every key stands behind the smaller ones, and so only once. -/
def Ascending {α : Type} (members : List (String × α)) : Prop :=
  members.Pairwise fun first second => first.1 < second.1

/-- A key that is not smaller and not equal is greater. -/
theorem lt_of_not_lt_of_ne {key other : String} (h : ¬key < other) (hne : key ≠ other) :
    other < key := by
  by_cases hlt : other < key
  · exact hlt
  · exact absurd (String.le_antisymm (String.not_lt.mp hlt) (String.not_lt.mp h)) hne

/-- The keys after a setting are the key that was set and the old ones. -/
theorem mem_putSorted {α : Type} {key : String} {value : α} {members : List (String × α)}
    {member : String × α} (h : member ∈ putSorted key value members) :
    member = (key, value) ∨ member ∈ members := by
  induction members with
  | nil => exact .inl (by simpa [putSorted] using h)
  | cons first rest ih =>
    unfold putSorted at h
    split at h
    · rcases List.mem_cons.mp h with h | h
      · exact .inl h
      · exact .inr h
    · split at h
      · rcases List.mem_cons.mp h with h | h
        · exact .inl h
        · exact .inr (List.mem_cons_of_mem _ h)
      · rcases List.mem_cons.mp h with h | h
        · exact .inr (h ▸ List.mem_cons_self)
        · exact (ih h).imp id (List.mem_cons_of_mem _)

/-- Setting a key keeps the keys ascending. -/
theorem Ascending.putSorted {α : Type} (key : String) (value : α) {members : List (String × α)}
    (h : Ascending members) : Ascending (putSorted key value members) := by
  induction members with
  | nil => simp [PageSketch.putSorted, Ascending]
  | cons first rest ih =>
    obtain ⟨hfirst, hrest⟩ := List.pairwise_cons.mp h
    unfold PageSketch.putSorted
    split
    · rename_i hlt
      refine List.pairwise_cons.mpr ⟨fun member hmem => ?_, h⟩
      rcases List.mem_cons.mp hmem with rfl | hmem
      · exact hlt
      · exact String.lt_trans hlt (hfirst member hmem)
    · split
      · rename_i heq
        exact List.pairwise_cons.mpr ⟨fun member hmem => heq ▸ hfirst member hmem, hrest⟩
      · rename_i hlt hne
        refine List.pairwise_cons.mpr ⟨fun member hmem => ?_, ih hrest⟩
        rcases mem_putSorted hmem with rfl | hmem
        · exact lt_of_not_lt_of_ne hlt hne
        · exact hfirst member hmem

/-- Leaving members out keeps the keys ascending. -/
theorem Ascending.without {α : Type} (key : String) {members : List (String × α)}
    (h : Ascending members) : Ascending (without key members) :=
  List.Pairwise.sublist List.filter_sublist h

/-- What is left out is gone. -/
theorem valueAt?_without_self {α : Type} (key : String) (members : List (String × α)) :
    valueAt? key (without key members) = none := by
  induction members with
  | nil => rfl
  | cons first rest ih =>
    by_cases h : first.1 = key
    · simpa [without, h] using ih
    · simpa [without, valueAt?, h] using ih

/-- Leaving a key out leaves the other keys alone. -/
theorem valueAt?_without_of_ne {α : Type} {key other : String} (h : other ≠ key)
    (members : List (String × α)) :
    valueAt? other (without key members) = valueAt? other members := by
  induction members with
  | nil => rfl
  | cons first rest ih =>
    by_cases hk : first.1 = key
    · simpa [without, valueAt?, hk, h.symm] using ih
    · by_cases ho : first.1 = other
      · simp [without, valueAt?, ho, h]
      · simpa [without, valueAt?, hk, ho] using ih

end PageSketch
