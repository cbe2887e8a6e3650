import PageSketch.Chat.Request
import PageSketch.Proofs.Json.Range
import PageSketch.Proofs.Json.Record
import PageSketch.Proofs.Json.Writing

/-!
# Requests are read back

The text of a request spells an object with the model, the messages and a number, whatever
characters the model and the messages have. So the reader of requests gets the model and the messages
back, each message with its role.
-/

namespace PageSketch

open Json

namespace Json

/-! ## Parts that are read from their values -/

/-- Whether a reader reads a value as a part, from whatever tree has the value. -/
def ReadsAs {α : Type} (reader : TreeReader α) (v : Value) (a : α) : Prop :=
  ∀ depth tree, tree.value depth = .ok v → reader depth tree = .ok a

/-- A string is read as its text. -/
theorem readsAs_readText (text : String) : ReadsAs readText (.string text) text :=
  fun _ _ h => (readText_eq_ok_iff h).mpr rfl

/-- A number is read as the nearest single. -/
theorem readsAs_readSingle (n : Number) : ReadsAs readSingle (.number n) n.toSingle := by
  intro depth tree h
  cases Tree.shows h with
  | number hread => rw [readSingle, hread]

/-- Items are read one after another. -/
theorem ReadsAs.readAll {α : Type} {reader : TreeReader α} {value : α → Value}
    (hreader : ∀ a, ReadsAs reader (value a) a) {depth : Nat} {as : List α} (items : Items)
    (h : items.values depth = .ok (as.map value)) : items.readAll reader depth = .ok as := by
  match items, as with
  | .closed stop, [] => rfl
  | .closed stop, _ :: _ => simp [Items.values] at h
  | .broken fault offset, _ => simp [Items.values] at h
  | .item tree rest, as =>
    obtain ⟨v, vs, hv, hvs, heq⟩ := Items.values_item_eq_ok_iff.mp h
    cases as with
    | nil => cases heq
    | cons a as =>
      obtain ⟨rfl, rfl⟩ := List.cons.inj heq
      rw [Items.readAll, hreader a depth tree hv, ReadsAs.readAll hreader rest hvs]
      rfl

/-- An array is read as the list of what its items are read as. -/
theorem readsAs_readList {α : Type} {reader : TreeReader α} {value : α → Value}
    (hreader : ∀ a, ReadsAs reader (value a) a) (as : List α) :
    ReadsAs (readList reader) (.array (as.map value)) as := by
  intro depth tree h
  cases Tree.shows h with
  | array hdepth hvalues => simp [readList, hdepth, ReadsAs.readAll hreader _ hvalues]

/-! ## Members one after another -/

/-- The first member of members with a first value. -/
theorem Members.exists_of_values_cons {depth : Nat} {members : Members} {key : String} {v : Value}
    {vs : List (String × Value)} (h : members.values depth = .ok ((key, v) :: vs)) :
    ∃ token tree rest, members = .member token tree rest ∧ token.text = .ok key ∧
      tree.value depth = .ok v ∧ rest.values depth = .ok vs := by
  cases members with
  | closed stop => simp [Members.values] at h
  | broken fault offset => simp [Members.values] at h
  | member token tree rest =>
    obtain ⟨k, w, ws, hk, hw, hws, heq⟩ := Members.values_member_eq_ok_iff.mp h
    obtain ⟨hfirst, rfl⟩ := List.cons.inj heq
    obtain ⟨rfl, rfl⟩ := Prod.mk.inj hfirst
    exact ⟨token, tree, rest, rfl, hk, hw, hws⟩

/-- No members are left when there are no values. -/
theorem Members.exists_of_values_nil {depth : Nat} {members : Members}
    (h : members.values depth = .ok []) : ∃ stop, members = .closed stop := by
  cases members with
  | closed stop => exact ⟨stop, rfl⟩
  | broken fault offset => simp [Members.values] at h
  | member token tree rest =>
    obtain ⟨k, w, ws, -, -, -, heq⟩ := Members.values_member_eq_ok_iff.mp h
    cases heq

end Json

namespace Chat

/-! ## Messages -/

/-- A message as a JSON value. -/
def Message.value (message : Message) : Value :=
  .object [("role", .string message.role), ("content", .string message.content)]

/-- The reader of messages reads their values. -/
theorem Message.readsAs_reader (message : Message) :
    ReadsAs Message.reader.read message.value message := by
  intro depth tree h
  cases Tree.shows h with
  | object hdepth hvalues =>
    obtain ⟨roleKey, roleTree, rest, rfl, hroleKey, hrole, hrest⟩ :=
      Members.exists_of_values_cons hvalues
    obtain ⟨contentKey, contentTree, rest, rfl, hcontentKey, hcontent, hrest⟩ :=
      Members.exists_of_values_cons hrest
    obtain ⟨stop, rfl⟩ := Members.exists_of_values_nil hrest
    have hrole' := readsAs_readText _ _ _ hrole
    have hcontent' := readsAs_readText _ _ _ hcontent
    simp [RecordReader.read, hdepth, Message.reader, Members.readFields, hroleKey, hcontentKey,
      FieldReader.of, hrole', hcontent', Except.map, RecordReader.missing?]

/-- A message is written as its value. -/
theorem Message.writes (message : Message) :
    ∃ literal, message.outline.Writes literal ∧ literal.value? = some message.value := by
  refine ⟨.object [("role", .string message.role), ("content", .string message.content)], ?_, rfl⟩
  exact .record (.cons (.atom (valueText_writeString _))
    (.cons (.atom (valueText_writeString _)) .nil))

/-- Messages are written as their values. -/
theorem Message.writesItems (messages : List Message) :
    ∃ literals, Outline.WritesItems (messages.map Message.outline) literals ∧
      Literal.itemValues? literals = some (messages.map Message.value) := by
  induction messages with
  | nil => exact ⟨[], .nil, rfl⟩
  | cons message messages ih =>
    obtain ⟨literal, hwrites, hvalue⟩ := message.writes
    obtain ⟨literals, hrest, hvalues⟩ := ih
    exact ⟨literal :: literals, .cons hwrites hrest, by simp [Literal.itemValues?, hvalue, hvalues]⟩

/-! ## Requests -/

/-- A request as a JSON value, with a number for its temperature. -/
def Request.value (request : Request) (temperature : Number) : Value :=
  .object
    [("model", .string request.model),
     ("messages", .array (request.messages.map Message.value)),
     ("temperature", .number temperature)]

/-- The reader of requests reads their values. -/
theorem Request.readsAs_reader (request : Request) (temperature : Number) :
    ReadsAs Request.reader.read (request.value temperature)
      { request with temperature := temperature.toSingle } := by
  intro depth tree h
  cases Tree.shows h with
  | object hdepth hvalues =>
    obtain ⟨modelKey, modelTree, rest, rfl, hmodelKey, hmodel, hrest⟩ :=
      Members.exists_of_values_cons hvalues
    obtain ⟨messagesKey, messagesTree, rest, rfl, hmessagesKey, hmessages, hrest⟩ :=
      Members.exists_of_values_cons hrest
    obtain ⟨temperatureKey, temperatureTree, rest, rfl, htemperatureKey, htemperature, hrest⟩ :=
      Members.exists_of_values_cons hrest
    obtain ⟨stop, rfl⟩ := Members.exists_of_values_nil hrest
    have hmodel' := readsAs_readText _ _ _ hmodel
    have hmessages' := readsAs_readList Message.readsAs_reader _ _ _ hmessages
    have htemperature' := readsAs_readSingle _ _ _ htemperature
    simp [RecordReader.read, hdepth, Request.reader, Members.readFields, hmodelKey, hmessagesKey,
      htemperatureKey, FieldReader.of, hmodel', hmessages', htemperature', Except.map,
      RecordReader.missing?]

/-- The value of a request is nested three deep. -/
theorem Request.nesting_value_le (request : Request) (temperature : Number) :
    (request.value temperature).nesting ≤ 3 := by
  have hmessages : Value.itemNesting (request.messages.map Message.value) ≤ 1 := by
    rw [Value.itemNesting_le_iff]
    intro item hitem
    obtain ⟨message, -, rfl⟩ := List.mem_map.mp hitem
    exact Nat.le_refl 1
  simp only [Request.value, Value.nesting, Value.memberNesting]
  omega

/-- The text of a request with a finite temperature spells its value. -/
theorem Request.exists_spellsValue_body (request : Request) {temperature : Binary .single}
    (h : request.temperature = .finite temperature) :
    ∃ n, SpellsValue request.body.toList (request.value n) := by
  obtain ⟨numeral, n, htext, hvalue⟩ := exists_value?_single .jsonSingle rfl temperature
  obtain ⟨literals, hmessages, hvalues⟩ := Message.writesItems request.messages
  have hwrites : request.outline.Writes (.object [("model", .string request.model),
      ("messages", .array literals), ("temperature", .number numeral)]) := by
    refine .record (.cons (.atom (valueText_writeString _)) (.cons (.list hmessages)
      (.cons (.atom ?_) .nil)))
    rw [h]
    exact .number htext
  refine ⟨n, (Value.spellsValue_iff_of_valueText hwrites.compact).mpr ⟨?_, ?_⟩⟩
  · exact (request.nesting_value_le n).trans_lt (by decide)
  · simp [Literal.value?, Literal.memberValues?, hvalues, hvalue, Request.value]

/-- A request with a finite temperature is read back from its text: the model is the same, and so are
the messages in their order. -/
theorem Request.exists_read_body (request : Request) {temperature : Binary .single}
    (h : request.temperature = .finite temperature) :
    ∃ t, Request.read request.body = .ok { request with temperature := t } := by
  obtain ⟨n, hspells⟩ := request.exists_spellsValue_body h
  obtain ⟨hroot, hextra⟩ := Document.value_eq_ok_iff.mp (read_value_eq_ok_iff.mpr hspells)
  refine ⟨n.toSingle, ?_⟩
  rw [Request.read, decodeText, Document.decode_eq_ok_iff]
  exact ⟨request.readsAs_reader n _ _ hroot, hextra⟩

end Chat

end PageSketch
