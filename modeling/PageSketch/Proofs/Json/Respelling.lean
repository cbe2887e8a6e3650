import PageSketch.Proofs.Json.Rereading
import PageSketch.Proofs.Json.Within

/-!
# Values with other texts and numbers

Replacing the strings and keys of a value and its numbers leaves its arrays and objects as they are.
Rereading a value is such a replacement.
-/

namespace PageSketch.Json

/-- The number that the text of a number is read as, or the number itself if it is out of range. -/
def Number.reread (n : Number) : Number := n.reread?.getD n

namespace Value

variable (onText : String → String) (onNumber : Number → Number)

mutual

/-- The value with other strings and keys, and with other numbers. -/
def respell (onText : String → String) (onNumber : Number → Number) : Value → Value
  | .null => .null
  | .bool b => .bool b
  | .number n => .number (onNumber n)
  | .string s => .string (onText s)
  | .array items => .array (respellItems onText onNumber items)
  | .object members => .object (respellMembers onText onNumber members)

/-- `respell` on every item. -/
def respellItems (onText : String → String) (onNumber : Number → Number) : List Value → List Value
  | [] => []
  | item :: rest => respell onText onNumber item :: respellItems onText onNumber rest

/-- `respell` on the value of every member, with other keys. -/
def respellMembers (onText : String → String) (onNumber : Number → Number) :
    List (String × Value) → List (String × Value)
  | [] => []
  | (key, value) :: rest =>
    (onText key, respell onText onNumber value) :: respellMembers onText onNumber rest

end

/-- Respelling the items respells each. -/
theorem respellItems_eq_map (items : List Value) :
    respellItems onText onNumber items = items.map (respell onText onNumber) := by
  induction items with
  | nil => rfl
  | cons item rest ih => rw [respellItems, ih, List.map_cons]

/-- Respelling the members respells the key and the value of each. -/
theorem respellMembers_eq_map (members : List (String × Value)) :
    respellMembers onText onNumber members =
      members.map fun member => (onText member.1, respell onText onNumber member.2) := by
  induction members with
  | nil => rfl
  | cons member rest ih =>
    obtain ⟨key, value⟩ := member
    rw [respellMembers, ih, List.map_cons]

/-- The texts after respelling have a property that the replacement gives to the texts before. -/
theorem Texts.respell {p q : String → Prop} {onText : String → String}
    (h : ∀ text, q text → p (onText text)) (onNumber : Number → Number) {value : Value}
    (htexts : value.Texts q) : (value.respell onText onNumber).Texts p := by
  induction value using Value.induction with
  | null | bool | number => trivial
  | string s => exact h s htexts
  | array items ih =>
    rw [Value.respell, respellItems_eq_map]
    refine everywhere_array.mpr ⟨trivial, fun item hitem => ?_⟩
    obtain ⟨source, hsource, rfl⟩ := List.mem_map.mp hitem
    exact ih source hsource (htexts.item hsource)
  | object members ih =>
    rw [Value.respell, respellMembers_eq_map]
    have hkeys : ∀ member ∈ members, q member.1 := htexts.top
    refine everywhere_object.mpr ⟨fun member hmember => ?_, fun member hmember => ?_⟩
    · obtain ⟨source, hsource, rfl⟩ := List.mem_map.mp hmember
      exact h _ (hkeys source hsource)
    · obtain ⟨source, hsource, rfl⟩ := List.mem_map.mp hmember
      exact ih source hsource (htexts.member hsource)

/-- Replacing only texts leaves a value alone when it leaves each text of it alone. -/
theorem Texts.respell_eq_self {onText : String → String} {value : Value}
    (h : value.Texts fun text => onText text = text) : value.respell onText id = value := by
  induction value using Value.induction with
  | null | bool | number => rfl
  | string s => exact congrArg Value.string h
  | array items ih =>
    rw [Value.respell, respellItems_eq_map,
      List.map_congr_left fun item hitem => ih item hitem (h.item hitem)]
    simp
  | object members ih =>
    have hkeys : ∀ member ∈ members, onText member.1 = member.1 := h.top
    rw [Value.respell, respellMembers_eq_map]
    -- Neither the key nor the value of a member changes.
    have hmembers : ∀ member ∈ members,
        (onText member.1, Value.respell onText id member.2) = member := by
      intro member hmember
      rw [hkeys member hmember, ih member hmember (h.member hmember)]
    rw [List.map_congr_left hmembers]
    simp

/-- Replacing only numbers leaves the keys in their order. -/
theorem Sorted.respell {value : Value} (h : value.Sorted) : (value.respell id onNumber).Sorted := by
  induction value using Value.induction with
  | null | bool | number | string => trivial
  | array items ih =>
    rw [Value.respell, respellItems_eq_map]
    refine everywhere_array.mpr ⟨trivial, fun item hitem => ?_⟩
    obtain ⟨source, hsource, rfl⟩ := List.mem_map.mp hitem
    exact ih source hsource (h.item hsource)
  | object members ih =>
    rw [Value.respell, respellMembers_eq_map]
    refine everywhere_object.mpr ⟨Ascending.mapValues _ h.top, fun member hmember => ?_⟩
    obtain ⟨source, hsource, rfl⟩ := List.mem_map.mp hmember
    exact ih source hsource (h.member hsource)

mutual

/-- What a value rereads as has the reread numbers. -/
theorem respell_of_reread? {w : Value} (v : Value) (h : v.reread? = some w) :
    v.respell id Number.reread = w := by
  match v with
  | .null | .bool _ | .string _ => exact Option.some.inj h
  | .number n =>
    obtain ⟨m, hm, rfl⟩ := Option.map_eq_some_iff.mp h
    rw [respell, Number.reread, hm, Option.getD_some]
  | .array items =>
    obtain ⟨others, hothers, rfl⟩ := Option.map_eq_some_iff.mp h
    rw [respell, respellItems_of_rereadItems? items hothers]
  | .object members =>
    obtain ⟨others, hothers, rfl⟩ := Option.map_eq_some_iff.mp h
    rw [respell, respellMembers_of_rereadMembers? members hothers]

/-- What items reread as has the reread numbers. -/
theorem respellItems_of_rereadItems? {others : List Value} (items : List Value)
    (h : rereadItems? items = some others) : respellItems id Number.reread items = others := by
  match items with
  | [] => exact Option.some.inj h
  | item :: rest =>
    obtain ⟨w, hw, hrest⟩ := Option.bind_eq_some_iff.mp h
    obtain ⟨ws, hws, rfl⟩ := Option.map_eq_some_iff.mp hrest
    rw [respellItems, respell_of_reread? item hw, respellItems_of_rereadItems? rest hws]

/-- What members reread as has the reread numbers. -/
theorem respellMembers_of_rereadMembers? {others : List (String × Value)}
    (members : List (String × Value)) (h : rereadMembers? members = some others) :
    respellMembers id Number.reread members = others := by
  match members with
  | [] => exact Option.some.inj h
  | (key, value) :: rest =>
    obtain ⟨w, hw, hrest⟩ := Option.bind_eq_some_iff.mp h
    obtain ⟨ws, hws, rfl⟩ := Option.map_eq_some_iff.mp hrest
    rw [respellMembers, respell_of_reread? value hw, respellMembers_of_rereadMembers? rest hws, id]

end

end Value

end PageSketch.Json
