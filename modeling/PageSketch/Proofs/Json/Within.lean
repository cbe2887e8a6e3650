import PageSketch.Proofs.Json.Value

/-!
# Values within bounds

How deeply a value may be nested and which texts may occur in it, as strings or as keys, are bounded
together: both bounds pass from a value to its parts and back, and keeping every key once does not
leave them.
-/

namespace PageSketch.Json

namespace Value

/-! ## Texts -/

/-- Whether a property holds of a string, or of the keys of an object; other values have no texts of
their own. -/
def OwnTexts (p : String → Prop) : Value → Prop
  | .string s => p s
  | .object members => ∀ member ∈ members, p member.1
  | _ => True

/-- Whether a property holds of every string and of every key in a value. -/
def Texts (p : String → Prop) (value : Value) : Prop := value.Everywhere (OwnTexts p)

/-- A property of all texts holds of those in a value. -/
theorem texts_of_forall {p : String → Prop} (h : ∀ text, p text) (value : Value) :
    value.Texts p := by
  refine everywhere_of_forall (fun other => ?_) value
  cases other <;> simp [OwnTexts, h]

/-! ## Both bounds -/

/-- Whether a value has at most `k` levels and only texts with a property. -/
structure Within (p : String → Prop) (k : Nat) (value : Value) : Prop where
  nesting : value.nesting ≤ k
  texts : value.Texts p

variable {p : String → Prop} {k : Nat}

/-- A string is within bounds when its text is. -/
theorem within_string {s : String} : (string s).Within p k ↔ p s := by
  constructor
  · intro h
    exact h.texts
  · intro h
    exact ⟨Nat.zero_le k, h⟩

/-- A number is within all bounds. -/
theorem within_number (n : Number) : (number n).Within p k := ⟨Nat.zero_le k, trivial⟩

/-- An array is within bounds when its items are, one level below. -/
theorem within_array {items : List Value} :
    (array items).Within p (k + 1) ↔ ∀ item ∈ items, item.Within p k := by
  constructor
  · intro h item hitem
    have hnesting : itemNesting items ≤ k := Nat.le_of_succ_le_succ h.nesting
    exact ⟨itemNesting_le_iff.mp hnesting item hitem, h.texts.item hitem⟩
  · intro h
    refine ⟨?_, everywhere_array.mpr ⟨trivial, fun item hitem => (h item hitem).texts⟩⟩
    exact Nat.succ_le_succ (itemNesting_le_iff.mpr fun item hitem => (h item hitem).nesting)

/-- An object is within bounds when its keys are, and its values one level below. -/
theorem within_object {members : List (String × Value)} :
    (object members).Within p (k + 1) ↔
      ∀ member ∈ members, p member.1 ∧ member.2.Within p k := by
  constructor
  · intro h member hmember
    have hnesting : memberNesting members ≤ k := Nat.le_of_succ_le_succ h.nesting
    have hkeys : ∀ member ∈ members, p member.1 := h.texts.top
    exact ⟨hkeys member hmember, memberNesting_le_iff.mp hnesting member hmember,
      h.texts.member hmember⟩
  · intro h
    refine ⟨?_, everywhere_object.mpr ⟨fun member hmember => (h member hmember).1, ?_⟩⟩
    · refine Nat.succ_le_succ (memberNesting_le_iff.mpr fun member hmember => ?_)
      exact (h member hmember).2.nesting
    · exact fun member hmember => (h member hmember).2.texts

/-- An array has a level of its own. -/
theorem Within.exists_of_array {items : List Value} (h : (array items).Within p k) :
    ∃ j, k = j + 1 := by
  have hnesting : itemNesting items + 1 ≤ k := h.nesting
  exact ⟨k - 1, by omega⟩

/-- An object has a level of its own. -/
theorem Within.exists_of_object {members : List (String × Value)}
    (h : (object members).Within p k) : ∃ j, k = j + 1 := by
  have hnesting : memberNesting members + 1 ≤ k := h.nesting
  exact ⟨k - 1, by omega⟩

/-- Without a bound on its texts, a value is within the bound on its levels. -/
theorem within_of_nesting_le {value : Value} (h : value.nesting ≤ k) :
    value.Within (fun _ => True) k :=
  ⟨h, texts_of_forall (fun _ => trivial) value⟩

/-! ## Keeping every key once -/

/-- A member after setting is an old one, or one of the members with its value changed. -/
theorem mem_dedupMembers {done members : List (String × Value)} {member : String × Value}
    (h : member ∈ dedupMembers done members) :
    member ∈ done ∨ ∃ source ∈ members, member = (source.1, source.2.dedup) := by
  induction members generalizing done with
  | nil => exact .inl h
  | cons source rest ih =>
    rcases ih h with hdone | ⟨other, hother, heq⟩
    · rcases mem_put hdone with heq | hdone
      · exact .inr ⟨source, List.mem_cons_self, heq⟩
      · exact .inl hdone
    · exact .inr ⟨other, List.mem_cons_of_mem _ hother, heq⟩

/-- An array whose items are changed within bounds stays there. -/
theorem Within.map_items {change : Value → Value} {items : List Value}
    (h : (array items).Within p k)
    (hchange : ∀ item ∈ items, ∀ {j}, item.Within p j → (change item).Within p j) :
    (array (items.map change)).Within p k := by
  obtain ⟨j, rfl⟩ := h.exists_of_array
  refine within_array.mpr fun item hitem => ?_
  obtain ⟨source, hsource, rfl⟩ := List.mem_map.mp hitem
  exact hchange source hsource (within_array.mp h source hsource)

/-- An object whose values are changed within bounds stays there, also when members go missing. -/
theorem Within.change_members {change : Value → Value} {members changed : List (String × Value)}
    (h : (object members).Within p k)
    (hsources : ∀ member ∈ changed,
      member ∈ [] ∨ ∃ source ∈ members, member = (source.1, change source.2))
    (hchange : ∀ member ∈ members, ∀ {j}, member.2.Within p j → (change member.2).Within p j) :
    (object changed).Within p k := by
  obtain ⟨j, rfl⟩ := h.exists_of_object
  refine within_object.mpr fun member hmember => ?_
  rcases hsources member hmember with hnone | ⟨source, hsource, rfl⟩
  · simp at hnone
  · have hwithin := within_object.mp h source hsource
    exact ⟨hwithin.1, hchange source hsource hwithin.2⟩

/-- Keeping the first place of every key stays within bounds. -/
theorem Within.dedup {value : Value} (h : value.Within p k) : value.dedup.Within p k := by
  induction value using Value.induction generalizing k with
  | null | bool | number | string => exact h
  | array items ih =>
    rw [Value.dedup, dedupItems_eq_map]
    exact h.map_items ih
  | object members ih => exact h.change_members (fun _ => mem_dedupMembers) ih

/-- Sorting stays within bounds. -/
theorem Within.sorted {value : Value} (h : value.Within p k) : value.sorted.Within p k := by
  induction value using Value.induction generalizing k with
  | null | bool | number | string => exact h
  | array items ih =>
    rw [Value.sorted, sortedItems_eq_map]
    exact h.map_items ih
  | object members ih => exact h.change_members (fun _ => mem_sortedMembers) ih

/-- Sorting does not nest a value deeper. -/
theorem nesting_sorted_le (value : Value) : value.sorted.nesting ≤ value.nesting :=
  (within_of_nesting_le (Nat.le_refl value.nesting)).sorted.nesting

end Value

end PageSketch.Json
