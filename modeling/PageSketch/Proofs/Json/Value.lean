import PageSketch.Json.Value
import PageSketch.Proofs.Keyed

/-!
# The structure of JSON values

An induction over values that reaches the items and members at once, properties that hold
everywhere in a value, the nesting of a value, and the laws of the two ways of keeping every key
once. Both ways keep the last value of a key, so sorting does not see whether keys were kept once
before.
-/

namespace PageSketch.Json

namespace Value

/-- Induction over values: a property of all items and members passes to the whole. -/
@[elab_as_elim]
theorem induction {P : Value → Prop} (null : P .null) (bool : ∀ b, P (.bool b))
    (number : ∀ n, P (.number n)) (string : ∀ s, P (.string s))
    (array : ∀ items, (∀ item ∈ items, P item) → P (.array items))
    (object : ∀ members, (∀ member ∈ members, P member.2) → P (.object members)) (value : Value) :
    P value :=
  @Value.rec P (fun items => ∀ item ∈ items, P item) (fun members => ∀ member ∈ members, P member.2)
    (fun member => P member.2) null bool number string array object
    (by simp) (fun _ _ hitem hrest => by simpa using ⟨hitem, hrest⟩)
    (by simp) (fun _ _ hmember hrest => by simpa using ⟨hmember, fun k v h => hrest (k, v) h⟩)
    (fun _ _ h => h) value

/-! ## Properties that hold everywhere -/

mutual

/-- Whether a property holds of a value and of everything nested in it. -/
def Everywhere (p : Value → Prop) : Value → Prop
  | .array items => p (.array items) ∧ EverywhereItems p items
  | .object members => p (.object members) ∧ EverywhereMembers p members
  | .null => p .null
  | .bool b => p (.bool b)
  | .number n => p (.number n)
  | .string s => p (.string s)

/-- Whether a property holds everywhere in the items. -/
def EverywhereItems (p : Value → Prop) : List Value → Prop
  | [] => True
  | item :: rest => Everywhere p item ∧ EverywhereItems p rest

/-- Whether a property holds everywhere in the members. -/
def EverywhereMembers (p : Value → Prop) : List (String × Value) → Prop
  | [] => True
  | (_, value) :: rest => Everywhere p value ∧ EverywhereMembers p rest

end

variable {p q : Value → Prop}

/-- Everywhere in the items is everywhere in each of them. -/
@[simp] theorem everywhereItems_iff {items : List Value} :
    EverywhereItems p items ↔ ∀ item ∈ items, item.Everywhere p := by
  induction items with
  | nil => simp [EverywhereItems]
  | cons item rest ih => simp [EverywhereItems, ih]

/-- Everywhere in the members is everywhere in each of their values. -/
@[simp] theorem everywhereMembers_iff {members : List (String × Value)} :
    EverywhereMembers p members ↔ ∀ member ∈ members, member.2.Everywhere p := by
  induction members with
  | nil => simp [EverywhereMembers]
  | cons member rest ih =>
    obtain ⟨k, v⟩ := member
    simp [EverywhereMembers, ih]

/-- What holds everywhere holds at the top. -/
theorem Everywhere.top {value : Value} (h : value.Everywhere p) : p value := by
  cases value <;> simp only [Everywhere] at h <;> first | exact h | exact h.1

/-- What holds everywhere in an array holds everywhere in its items. -/
theorem Everywhere.item {items : List Value} (h : (array items).Everywhere p) {item : Value}
    (hitem : item ∈ items) : item.Everywhere p :=
  everywhereItems_iff.mp h.2 item hitem

/-- What holds everywhere in an object holds everywhere in its values. -/
theorem Everywhere.member {members : List (String × Value)} (h : (object members).Everywhere p)
    {member : String × Value} (hmember : member ∈ members) : member.2.Everywhere p :=
  everywhereMembers_iff.mp h.2 member hmember

/-- Everywhere in an array. -/
theorem everywhere_array {items : List Value} :
    (array items).Everywhere p ↔ p (.array items) ∧ ∀ item ∈ items, item.Everywhere p := by
  simp [Everywhere]

/-- Everywhere in an object. -/
theorem everywhere_object {members : List (String × Value)} :
    (object members).Everywhere p ↔
      p (.object members) ∧ ∀ member ∈ members, member.2.Everywhere p := by
  simp [Everywhere]

/-- A property of all values holds everywhere. -/
theorem everywhere_of_forall (h : ∀ value, p value) (value : Value) : value.Everywhere p := by
  induction value using Value.induction with
  | null | bool | number | string => exact h _
  | array items ih => exact everywhere_array.mpr ⟨h _, ih⟩
  | object members ih => exact everywhere_object.mpr ⟨h _, ih⟩

/-- A property that is implied holds wherever the other one does. -/
theorem Everywhere.imp (h : ∀ value, p value → q value) {value : Value}
    (hp : value.Everywhere p) : value.Everywhere q := by
  induction value using Value.induction with
  | null | bool | number | string => exact h _ hp
  | array items ih =>
    rw [everywhere_array] at hp ⊢
    exact ⟨h _ hp.1, fun item hitem => ih item hitem (hp.2 item hitem)⟩
  | object members ih =>
    rw [everywhere_object] at hp ⊢
    exact ⟨h _ hp.1, fun member hmember => ih member hmember (hp.2 member hmember)⟩

/-! ## Nesting and numbers -/

mutual

/-- How many arrays and objects of a value stand within each other. -/
def nesting : Value → Nat
  | .array items => itemNesting items + 1
  | .object members => memberNesting members + 1
  | .null => 0
  | .bool _ => 0
  | .number _ => 0
  | .string _ => 0

/-- The greatest nesting of the items. -/
def itemNesting : List Value → Nat
  | [] => 0
  | item :: rest => max (nesting item) (itemNesting rest)

/-- The greatest nesting of the members. -/
def memberNesting : List (String × Value) → Nat
  | [] => 0
  | (_, value) :: rest => max (nesting value) (memberNesting rest)

end

/-- The items are nested no deeper than each of them. -/
theorem itemNesting_le_iff {items : List Value} {k : Nat} :
    itemNesting items ≤ k ↔ ∀ item ∈ items, item.nesting ≤ k := by
  induction items with
  | nil => simp [itemNesting]
  | cons item rest ih => rw [itemNesting, Nat.max_le, ih, List.forall_mem_cons]

/-- The members are nested no deeper than each of their values. -/
theorem memberNesting_le_iff {members : List (String × Value)} {k : Nat} :
    memberNesting members ≤ k ↔ ∀ member ∈ members, member.2.nesting ≤ k := by
  induction members with
  | nil => simp [memberNesting]
  | cons member rest ih =>
    obtain ⟨key, value⟩ := member
    rw [memberNesting, Nat.max_le, ih, List.forall_mem_cons]

/-- Whether a property holds of a number; other values are none. -/
def IfNumber (p : Number → Prop) : Value → Prop
  | .number n => p n
  | _ => True

/-- Whether a property holds of every number in a value. -/
def Numbers (p : Number → Prop) (value : Value) : Prop := value.Everywhere (IfNumber p)

/-! ## Keys -/

/-- Whether an object has every key once; other values have no keys. -/
def ObjectKeysOnce : Value → Prop
  | .object members => KeysOnce members
  | _ => True

/-- Whether the keys of an object ascend; other values have no keys. -/
def ObjectAscending : Value → Prop
  | .object members => Ascending members
  | _ => True

/-- Whether every object in a value has every key once. -/
def WellKeyed (value : Value) : Prop := value.Everywhere ObjectKeysOnce

/-- Whether the keys of every object in a value ascend. -/
def Sorted (value : Value) : Prop := value.Everywhere ObjectAscending

/-- A sorted value has every key once. -/
theorem Sorted.wellKeyed {value : Value} (h : value.Sorted) : value.WellKeyed := by
  refine Everywhere.imp ?_ h
  intro value hvalue
  cases value with
  | object members => exact Ascending.keysOnce hvalue
  | _ => trivial

/-- An object has every key once when no key stands twice and every value has every key once. -/
theorem wellKeyed_object_iff {members : List (String × Value)} :
    (object members).WellKeyed ↔ KeysOnce members ∧ ∀ member ∈ members, member.2.WellKeyed :=
  everywhere_object

/-- Another value under a key keeps every key once. -/
theorem WellKeyed.replaced {before after : List (String × Value)} {key : String} {v w : Value}
    (h : (object (before ++ (key, v) :: after)).WellKeyed) (hw : w.WellKeyed) :
    (object (before ++ (key, w) :: after)).WellKeyed := by
  obtain ⟨honce, hvalues⟩ := wellKeyed_object_iff.mp h
  refine wellKeyed_object_iff.mpr ⟨by simpa [KeysOnce] using honce, fun member hmember => ?_⟩
  simp only [List.mem_append, List.mem_cons] at hmember hvalues
  rcases hmember with hmember | rfl | hmember
  · exact hvalues member (.inl hmember)
  · exact hw
  · exact hvalues member (.inr (.inr hmember))

/-- Another item keeps every key once. -/
theorem WellKeyed.item_replaced {first rest : List Value} {v w : Value}
    (h : (array (first ++ v :: rest)).WellKeyed) (hw : w.WellKeyed) :
    (array (first ++ w :: rest)).WellKeyed := by
  refine everywhere_array.mpr ⟨trivial, fun item hitem => ?_⟩
  rcases List.mem_append.mp hitem with hitem | hitem
  · exact h.item (List.mem_append_left _ hitem)
  · rcases List.mem_cons.mp hitem with rfl | hitem
    · exact hw
    · exact h.item (List.mem_append_right _ (List.mem_cons_of_mem _ hitem))

/-- The value of a member has every key once. -/
theorem WellKeyed.inner {before after : List (String × Value)} {key : String} {v : Value}
    (h : (object (before ++ (key, v) :: after)).WellKeyed) : v.WellKeyed :=
  (wellKeyed_object_iff.mp h).2 _ (List.mem_append_right _ List.mem_cons_self)

/-- An item has every key once. -/
theorem WellKeyed.inner_item {first rest : List Value} {v : Value}
    (h : (array (first ++ v :: rest)).WellKeyed) : v.WellKeyed :=
  Everywhere.item h (List.mem_append_right _ List.mem_cons_self)

/-! ## Keeping every key once -/

/-- `dedup` on the items is `dedup` on each. -/
theorem dedupItems_eq_map (items : List Value) : dedupItems items = items.map dedup := by
  induction items with
  | nil => rfl
  | cons item rest ih => simp [dedupItems, ih]

/-- `sorted` on the items is `sorted` on each. -/
theorem sortedItems_eq_map (items : List Value) : sortedItems items = items.map sorted := by
  induction items with
  | nil => rfl
  | cons item rest ih => simp [sortedItems, ih]

/-- After setting the members one after another, every key has its last value. -/
theorem valueAt?_dedupMembers (key : String) (done members : List (String × Value)) :
    valueAt? key (dedupMembers done members) =
      ((lastAt? key members).map dedup).or (valueAt? key done) := by
  induction members generalizing done with
  | nil => simp [dedupMembers, lastAt?]
  | cons member rest ih =>
    obtain ⟨k, v⟩ := member
    rw [dedupMembers, ih, lastAt?]
    by_cases h : k = key
    · subst h
      rw [valueAt?_put_self]
      cases lastAt? k rest <;> simp
    · rw [valueAt?_put_of_ne (Ne.symm h)]
      simp [h]

/-- After setting the members in ascending order, every key has its last value. -/
theorem valueAt?_sortedMembers (key : String) (done members : List (String × Value)) :
    valueAt? key (sortedMembers done members) =
      ((lastAt? key members).map sorted).or (valueAt? key done) := by
  induction members generalizing done with
  | nil => simp [sortedMembers, lastAt?]
  | cons member rest ih =>
    obtain ⟨k, v⟩ := member
    rw [sortedMembers, ih, lastAt?]
    by_cases h : k = key
    · subst h
      rw [valueAt?_putSorted_self]
      cases lastAt? k rest <;> simp
    · rw [valueAt?_putSorted_of_ne (Ne.symm h)]
      simp [h]

/-- Setting the members one after another keeps every key once. -/
theorem keysOnce_dedupMembers (done : List (String × Value)) (h : KeysOnce done)
    (members : List (String × Value)) : KeysOnce (dedupMembers done members) := by
  induction members generalizing done with
  | nil => exact h
  | cons member rest ih => exact ih _ h.put

/-- Setting the members in ascending order keeps the keys ascending. -/
theorem ascending_sortedMembers {done : List (String × Value)} (h : Ascending done)
    (members : List (String × Value)) : Ascending (sortedMembers done members) := by
  induction members generalizing done with
  | nil => exact h
  | cons member rest ih => exact ih (h.putSorted _ _)

/-- A member after setting is an old one, or one of the members with its value changed. -/
theorem mem_sortedMembers {done members : List (String × Value)} {member : String × Value}
    (h : member ∈ sortedMembers done members) :
    member ∈ done ∨ ∃ source ∈ members, member = (source.1, source.2.sorted) := by
  induction members generalizing done with
  | nil => exact .inl h
  | cons source rest ih =>
    rcases ih h with hdone | ⟨other, hother, heq⟩
    · rcases mem_putSorted hdone with heq | hdone
      · exact .inr ⟨source, List.mem_cons_self, heq⟩
      · exact .inl hdone
    · exact .inr ⟨other, List.mem_cons_of_mem _ hother, heq⟩

/-- With every key once, setting the members changes only their values. -/
theorem dedupMembers_of_keysOnce (done : List (String × Value)) {members : List (String × Value)}
    (h : KeysOnce (done ++ members))
    (hvalues : ∀ member ∈ members, member.2.dedup = member.2) :
    dedupMembers done members = done ++ members := by
  induction members generalizing done with
  | nil => simp [dedupMembers]
  | cons member rest ih =>
    obtain ⟨k, v⟩ := member
    have hv : v.dedup = v := hvalues (k, v) List.mem_cons_self
    have hnew : k ∉ done.map Prod.fst := by
      intro hmem
      rw [KeysOnce, List.map_append, List.nodup_append] at h
      exact h.2.2 k hmem k (by simp) rfl
    rw [dedupMembers, hv, put_of_not_mem hnew, ih]
    · simp
    · simpa using h
    · exact fun other hother => hvalues other (List.mem_cons_of_mem _ hother)

/-- A value with every key once is its own `dedup`. -/
theorem dedup_of_wellKeyed {value : Value} (h : value.WellKeyed) : value.dedup = value := by
  induction value using Value.induction with
  | null | bool | number | string => rfl
  | array items ih =>
    rw [dedup, dedupItems_eq_map, List.map_congr_left fun item hitem => ih item hitem (h.item hitem)]
    simp
  | object members ih =>
    have honce : KeysOnce members := h.top
    rw [dedup, dedupMembers_of_keysOnce []]
    · rfl
    · exact honce
    · exact fun member hmember => ih member hmember (h.member hmember)

/-- The members in ascending order are sorted everywhere. -/
theorem sorted_sorted_members {members : List (String × Value)}
    (h : ∀ member ∈ members, member.2.sorted.Sorted) :
    (object (sortedMembers [] members)).Sorted := by
  refine everywhere_object.mpr ⟨ascending_sortedMembers .nil members, ?_⟩
  intro member hmember
  rcases mem_sortedMembers hmember with hdone | ⟨source, hsource, heq⟩
  · simp at hdone
  · rw [heq]
    exact h source hsource

/-- Sorting sorts. -/
theorem sorted_sorted (value : Value) : value.sorted.Sorted := by
  induction value using Value.induction with
  | null | bool | number | string => trivial
  | array items ih =>
    refine everywhere_array.mpr ⟨trivial, ?_⟩
    rw [sortedItems_eq_map]
    intro item hitem
    obtain ⟨source, hsource, rfl⟩ := List.mem_map.mp hitem
    exact ih source hsource
  | object members ih => exact sorted_sorted_members ih

/-- Sorting the members does not see whether every key was kept once before. -/
theorem sortedMembers_dedupMembers {members : List (String × Value)}
    (h : ∀ member ∈ members, member.2.dedup.sorted = member.2.sorted) :
    sortedMembers [] (dedupMembers [] members) = sortedMembers [] members := by
  -- Both sides ascend, so they are compared key by key.
  refine Ascending.ext (ascending_sortedMembers .nil _) (ascending_sortedMembers .nil _) ?_
  intro key
  have honce : KeysOnce (dedupMembers [] members) := keysOnce_dedupMembers [] List.nodup_nil members
  rw [valueAt?_sortedMembers, valueAt?_sortedMembers, honce.lastAt?_eq, valueAt?_dedupMembers]
  cases hlast : lastAt? key members with
  | none => rfl
  | some value =>
    have hvalue : value.dedup.sorted = value.sorted := h _ (mem_of_lastAt?_eq_some hlast)
    simp [hvalue]

/-- Sorting does not see whether every key was kept once before. -/
theorem sorted_dedup (value : Value) : value.dedup.sorted = value.sorted := by
  induction value using Value.induction with
  | null | bool | number | string => rfl
  | array items ih =>
    simp only [dedup, sorted, dedupItems_eq_map, sortedItems_eq_map, List.map_map]
    exact congrArg array (List.map_congr_left ih)
  | object members ih => rw [dedup, sorted, sorted, sortedMembers_dedupMembers ih]

/-- Sorting leaves sorted members alone. -/
theorem sortedMembers_of_ascending {members : List (String × Value)} (h : Ascending members)
    (hvalues : ∀ member ∈ members, member.2.sorted = member.2) :
    sortedMembers [] members = members := by
  refine Ascending.ext (ascending_sortedMembers .nil _) h ?_
  intro key
  rw [valueAt?_sortedMembers, h.keysOnce.lastAt?_eq]
  cases hvalue : valueAt? key members with
  | none => rfl
  | some value =>
    have hsorted : value.sorted = value := hvalues _ (mem_of_valueAt?_eq_some hvalue)
    simp [hsorted]

/-- Sorting leaves a sorted value alone. -/
theorem Sorted.sorted_eq {value : Value} (h : value.Sorted) : value.sorted = value := by
  induction value using Value.induction with
  | null | bool | number | string => rfl
  | array items ih =>
    rw [sorted, sortedItems_eq_map,
      List.map_congr_left fun item hitem => ih item hitem (h.item hitem)]
    simp
  | object members ih =>
    rw [sorted, sortedMembers_of_ascending]
    · exact h.top
    · exact fun member hmember => ih member hmember (h.member hmember)

end Value

end PageSketch.Json
