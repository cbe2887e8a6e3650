import PageSketch.Json.Record
import PageSketch.Proofs.Json.Soundness
import PageSketch.Proofs.Keyed

/-!
# Readers of texts and decoders of values

On a tree that has a value, the readers that follow the text are decoders of that value: no fault of
the text can show, so what is left is which values are accepted, and as what. For a record this is
told field by field, whatever the order of the members is.
-/

namespace PageSketch.Json

/-! ## Trees with values have no faults -/

/-- A string that breaks off has no characters. -/
theorem decodeUnits_broken (fault : Fault) (offset : Nat) (units : List TextUnit)
    (out : List Char) : decodeUnits (.broken fault offset) units ≠ .ok out := by
  intro h
  fun_induction decodeUnits (.broken fault offset) units generalizing out <;> simp_all

/-- A string with a text does not break off. -/
theorem StringToken.hardFault?_eq_none {token : StringToken} {text : String}
    (h : token.text = .ok text) : token.hardFault? = none := by
  obtain ⟨units, ending⟩ := token
  cases ending with
  | closed stop => rfl
  | broken fault offset =>
    obtain ⟨out, hout, -⟩ := map_eq_ok_iff.mp h
    exact absurd hout (decodeUnits_broken fault offset units out)

mutual

/-- A tree with a value does not break off. -/
theorem Tree.hardFault?_eq_none {depth : Nat} {v : Value} (tree : Tree)
    (h : tree.value depth = .ok v) : tree.hardFault? = none := by
  match tree with
  | .null stop => rfl
  | .bool b stop => rfl
  | .number numeral stop => rfl
  | .string token =>
    rw [Tree.value, map_eq_ok_iff] at h
    obtain ⟨text, htext, -⟩ := h
    rw [Tree.hardFault?, StringToken.hardFault?_eq_none htext]
  | .array start items =>
    obtain ⟨-, vs, hvs, -⟩ := Tree.value_array_eq_ok_iff.mp h
    rw [Tree.hardFault?, Items.hardFault?_eq_none items hvs]
  | .object start members =>
    obtain ⟨-, vs, hvs, -⟩ := Tree.value_object_eq_ok_iff.mp h
    rw [Tree.hardFault?, Members.hardFault?_eq_none members hvs]
  | .broken fault offset => simp [Tree.value] at h

/-- Items with values do not break off. -/
theorem Items.hardFault?_eq_none {depth : Nat} {vs : List Value} (items : Items)
    (h : items.values depth = .ok vs) : items.hardFault? = none := by
  match items with
  | .closed stop => rfl
  | .item value rest =>
    obtain ⟨v, ws, hv, hws, -⟩ := Items.values_item_eq_ok_iff.mp h
    rw [Items.hardFault?, Tree.hardFault?_eq_none value hv, Items.hardFault?_eq_none rest hws]
    rfl
  | .broken fault offset => simp [Items.values] at h

/-- Members with values do not break off. -/
theorem Members.hardFault?_eq_none {depth : Nat} {vs : List (String × Value)} (members : Members)
    (h : members.values depth = .ok vs) : members.hardFault? = none := by
  match members with
  | .closed stop => rfl
  | .member key value rest =>
    obtain ⟨k, v, ws, hk, hv, hws, -⟩ := Members.values_member_eq_ok_iff.mp h
    rw [Members.hardFault?, StringToken.hardFault?_eq_none hk, Tree.hardFault?_eq_none value hv,
      Members.hardFault?_eq_none rest hws]
    rfl
  | .broken fault offset => simp [Members.values] at h

end

/-! ## Plain parts -/

/-- What a tree with a value can be. -/
inductive Tree.Shows (depth : Nat) : Tree → Value → Prop
  | null (stop : Nat) : Shows depth (.null stop) .null
  | bool (b : Bool) (stop : Nat) : Shows depth (.bool b stop) (.bool b)
  | number {numeral : Numeral} {stop : Nat} {n : Number} (read : numeral.read stop = .ok n) :
      Shows depth (.number numeral stop) (.number n)
  | string {token : StringToken} {s : String} (text : token.text = .ok s) :
      Shows depth (.string token) (.string s)
  | array {start : Nat} {items : Items} {vs : List Value} (enters : ¬depth ≤ 1)
      (values : items.values (depth - 1) = .ok vs) : Shows depth (.array start items) (.array vs)
  | object {start : Nat} {members : Members} {vs : List (String × Value)} (enters : ¬depth ≤ 1)
      (values : members.values (depth - 1) = .ok vs) :
      Shows depth (.object start members) (.object vs)

/-- A tree with a value is one of these. -/
theorem Tree.shows {depth : Nat} {tree : Tree} {v : Value} (h : tree.value depth = .ok v) :
    tree.Shows depth v := by
  cases tree with
  | null stop =>
    obtain rfl : Value.null = v := by simpa [Tree.value] using h
    exact .null stop
  | bool b stop =>
    obtain rfl : Value.bool b = v := by simpa [Tree.value] using h
    exact .bool b stop
  | number numeral stop =>
    rw [Tree.value, map_eq_ok_iff] at h
    obtain ⟨n, hn, rfl⟩ := h
    exact .number hn
  | string token =>
    rw [Tree.value, map_eq_ok_iff] at h
    obtain ⟨text, htext, rfl⟩ := h
    exact .string htext
  | array start items =>
    obtain ⟨hdepth, vs, hvs, rfl⟩ := Tree.value_array_eq_ok_iff.mp h
    exact .array (by omega) hvs
  | object start members =>
    obtain ⟨hdepth, vs, hvs, rfl⟩ := Tree.value_object_eq_ok_iff.mp h
    exact .object (by omega) hvs
  | broken fault offset => simp [Tree.value] at h

section

variable {depth : Nat} {tree : Tree} {v : Value}

/-- A text is read where the value is a string. -/
theorem readText_eq_ok_iff (h : tree.value depth = .ok v) {text : String} :
    readText depth tree = .ok text ↔ v = .string text := by
  cases Tree.shows h with
  | string htext => simp [readText, htext]
  | _ => simp [readText]

/-- Any value is read. -/
theorem readAny_eq_ok_iff (h : tree.value depth = .ok v) {w : Value} :
    readAny depth tree = .ok w ↔ v = w := by
  simp [readAny, h]

/-- Null is read as the default, and other values are read. -/
theorem orDefault_eq_ok_iff {α : Type} {fallback a : α} {reader : TreeReader α}
    (h : tree.value depth = .ok v) :
    orDefault fallback reader depth tree = .ok a ↔
      v = .null ∧ fallback = a ∨ v ≠ .null ∧ reader depth tree = .ok a := by
  cases Tree.shows h with
  | null => simp [orDefault]
  | _ => simp [orDefault]

/-- The members of an object are read with every key kept once. -/
theorem readMap_eq_ok_iff (h : tree.value depth = .ok v) {members : List (String × Value)} :
    readMap depth tree = .ok members ↔
      ∃ found, v = .object found ∧ Value.dedupMembers [] found = members := by
  cases Tree.shows h with
  | object hdepth hvalues => simp [readMap, hdepth, hvalues]
  | _ => simp [readMap]

/-- Whether a reader accepts of a tree what a decoder accepts of its value. -/
def Follows {α : Type} (reader : TreeReader α) (decode : Value → Except DecodeError α) : Prop :=
  ∀ depth tree v, tree.value depth = .ok v → ∀ a, reader depth tree = .ok a ↔ decode v = .ok a

/-- Items are read one after another as they are decoded. -/
theorem Follows.readAll {α : Type} {reader : TreeReader α}
    {decode : Value → Except DecodeError α} (hreader : Follows reader decode) {depth : Nat}
    {vs : List Value} {as : List α} (items : Items) (h : items.values depth = .ok vs) :
    items.readAll reader depth = .ok as ↔ vs.map decode = as.map .ok := by
  match items with
  | .closed stop =>
    obtain rfl : [] = vs := by simpa [Items.values] using h
    simp [Items.readAll, eq_comm]
  | .broken fault offset => simp [Items.values] at h
  | .item value rest =>
    obtain ⟨v, ws, hv, hws, rfl⟩ := Items.values_item_eq_ok_iff.mp h
    rw [Items.readAll, List.map_cons]
    have hfirst := hreader depth value v hv
    cases hread : reader depth value with
    | error e =>
      -- What is not read is not decoded.
      have hrefused : ∀ a, decode v ≠ .ok a := by
        intro a ha
        rw [(hfirst a).mpr ha] at hread
        cases hread
      cases as with
      | nil => simp
      | cons a as => simp [hrefused a]
    | ok a =>
      rw [(hfirst a).mp hread]
      cases as with
      | nil => simp
      | cons b bs =>
        simp only [map_eq_ok_iff, hreader.readAll rest hws, List.map_cons, List.cons.injEq,
          Except.ok.injEq]
        constructor
        · rintro ⟨as, has, rfl, rfl⟩
          exact ⟨rfl, has⟩
        · rintro ⟨rfl, hbs⟩
          exact ⟨bs, hbs, rfl, rfl⟩

/-- The items of an array are read as they are decoded. -/
theorem Follows.readList_eq_ok_iff {α : Type} {reader : TreeReader α}
    {decode : Value → Except DecodeError α} (hreader : Follows reader decode)
    (h : tree.value depth = .ok v) {as : List α} :
    readList reader depth tree = .ok as ↔
      ∃ items, v = .array items ∧ items.map decode = as.map .ok := by
  cases Tree.shows h with
  | array hdepth hvalues => simp [readList, hdepth, hreader.readAll _ hvalues]
  | _ => simp [readList]

end

/-! ## Records -/

/-- A part of a record as `decode` reads it, and `fallback` if the record does not have it. -/
def partOr {α : Type} (fallback : α) (decode : Value → Except DecodeError α) :
    Option Value → Except DecodeError α
  | some value => decode value
  | none => .ok fallback

/-- What a part is read as is the fallback, or decoded of what stands there. -/
theorem partOr_eq_ok {α : Type} {fallback a : α} {decode : Value → Except DecodeError α}
    {part : Option Value} (h : partOr fallback decode part = .ok a) :
    a = fallback ∨ ∃ v ∈ part, decode v = .ok a := by
  cases part with
  | none => exact .inl (Except.ok.inj h).symm
  | some v => exact .inr ⟨v, rfl, h⟩

/-- A part is accepted when what stands there, if anything, is. -/
theorem exists_partOr_eq_ok_iff {α : Type} (fallback : α) {decode : Value → Except DecodeError α}
    {part : Option Value} {p : Value → Prop} (h : ∀ v ∈ part, (∃ a, decode v = .ok a) ↔ p v) :
    (∃ a, partOr fallback decode part = .ok a) ↔ ∀ v ∈ part, p v := by
  cases part with
  | none => simp [partOr]
  | some value => simpa [partOr] using h value rfl

/-- A field of a record: how it is read from a tree and decoded from a value, what it is when it is
not there, and where it stands in the record. Storing a tree sets the field to what the value of the
tree decodes to. -/
structure Field (α : Type) where
  {Part : Type}
  reader : FieldReader α
  decode : Value → Except DecodeError Part
  fallback : Part
  get : α → Part
  set : Part → α → α
  store_eq_ok_iff {depth : Nat} {tree : Tree} {v : Value} (h : tree.value depth = .ok v)
    {record result : α} : reader.store depth tree record = .ok result ↔
      ∃ part, decode v = .ok part ∧ set part record = result
  get_set (part : Part) (record : α) : get (set part record) = part

namespace Field

variable {α : Type}

/-- The name of a field. -/
def name (field : Field α) : String := field.reader.name

/-- Whether a record needs a field. -/
def isRequired (field : Field α) : Bool := field.reader.isRequired

/-- A field whose part is read as it is decoded. -/
def of {β : Type} (name : String) (isRequired : Bool) {reader : TreeReader β}
    {decode : Value → Except DecodeError β} (follows : Follows reader decode) (fallback : β)
    (get : α → β) (set : β → α → α) (get_set : ∀ part record, get (set part record) = part) :
    Field α where
  reader := .of name isRequired reader set
  decode := decode
  fallback := fallback
  get := get
  set := set
  store_eq_ok_iff {depth tree v} h record result := by
    simp only [FieldReader.of, map_eq_ok_iff, follows depth tree v h]
  get_set := get_set

/-- Whether a record has in a field what the part decodes to. -/
def Holds (field : Field α) (part : Option Value) (record : α) : Prop :=
  partOr field.fallback field.decode part = .ok (field.get record)

/-- Whether setting a field leaves another one alone. -/
def Spares (field other : Field α) : Prop :=
  ∀ part record, other.get (field.set part record) = other.get record

end Field

/-- A record: its name in messages, its fields in order, and the record before any field, which has
the fallback in each. The fields have different names, stand in different places, and make up the
record. -/
structure Record (α : Type) where
  name : String
  fields : List (Field α)
  initial : α
  names : fields.Pairwise fun field other => field.name ≠ other.name
  spares : ∀ field ∈ fields, ∀ other ∈ fields, field.name ≠ other.name → field.Spares other
  get_initial : ∀ field ∈ fields, field.get initial = field.fallback
  ext : ∀ record record', (∀ field ∈ fields, field.get record = field.get record') →
    record = record'

namespace Record

variable {α : Type} (R : Record α)

/-- The reader of the record. -/
def reader : RecordReader α := ⟨R.name, R.fields.map Field.reader, R.initial⟩

/-- The names of the fields. -/
def fieldNames : List String := R.fields.map (·.name)

variable {R}

/-- A field is known by its name. -/
theorem eq_of_name_eq {field other : Field α} (hfield : field ∈ R.fields)
    (hother : other ∈ R.fields) (h : field.name = other.name) : field = other := by
  refine List.Pairwise.forall_of_forall_of_flip (R := fun f g => f.name = g.name → f = g)
    (fun f _ _ => rfl) ?_ ?_ hfield hother h
  · exact R.names.imp fun hne heq => absurd heq hne
  · exact R.names.imp fun hne heq => absurd heq.symm hne

/-- The field with a name is found, if there is one. -/
theorem find?_reader (key : String) :
    (R.fields.map Field.reader).find? (fun field => field.name == key) =
      (R.fields.find? fun field => field.name == key).map Field.reader := by
  rw [List.find?_map]
  rfl

/-! ### Objects -/

/-- Whether a record is the one under construction after some members: every field has what stands
under its name so far, the names seen are those of the members, and no field stood twice. -/
structure Reached (R : Record α) (done : List (String × Value)) (seen : List String)
    (record : α) : Prop where
  holds : ∀ field ∈ R.fields, field.Holds (valueAt? field.name done) record
  seen : ∀ field ∈ R.fields, field.name ∈ seen ↔ field.name ∈ done.map Prod.fst
  once : ∀ field ∈ R.fields, AtMostOnce field.name done

variable {done : List (String × Value)} {seen : List String} {record : α} {key : String} {v : Value}

/-- Before any member the record is the initial one. -/
theorem reached_initial : R.Reached [] [] R.initial where
  holds field hfield := by simp [Field.Holds, valueAt?, partOr, R.get_initial field hfield]
  seen field _ := by simp
  once field _ := by simp [AtMostOnce]

/-- A member under another name than those of the fields is passed over. -/
theorem Reached.pass (h : R.Reached done seen record)
    (hkey : ∀ field ∈ R.fields, field.name ≠ key) :
    R.Reached (done ++ [(key, v)]) seen record where
  holds field hfield := by
    have hne : key ≠ field.name := (hkey field hfield).symm
    simpa [valueAt?_append, valueAt?, hne] using h.holds field hfield
  seen field hfield := by simp [h.seen field hfield, hkey field hfield]
  once field hfield := by
    refine atMostOnce_append_cons_iff.mpr ⟨fun heq => ?_, ?_⟩
    · exact absurd heq.symm (hkey field hfield)
    · rw [List.append_nil]
      exact h.once field hfield

/-- A member under the name of a field that was not seen is stored in the field. -/
theorem Reached.store (h : R.Reached done seen record) {field : Field α}
    (hfield : field ∈ R.fields) (hnew : field.name ∉ seen) {part : field.Part}
    (hpart : field.decode v = .ok part) :
    R.Reached (done ++ [(field.name, v)]) (field.name :: seen) (field.set part record) := by
  have hdone : field.name ∉ done.map Prod.fst := fun hmem => hnew ((h.seen field hfield).mpr hmem)
  refine ⟨fun other hother => ?_, fun other hother => ?_, fun other hother => ?_⟩
  · by_cases hname : field.name = other.name
    · obtain rfl := R.eq_of_name_eq hfield hother hname
      rw [Field.Holds, valueAt?_append, valueAt?_eq_none_iff.mpr hdone, field.get_set]
      simp [valueAt?, partOr, hpart]
    · have hholds := h.holds other hother
      rw [Field.Holds] at hholds ⊢
      rw [R.spares field hfield other hother hname]
      simpa [valueAt?_append, valueAt?, hname] using hholds
  · simp [h.seen other hother, or_comm, eq_comm]
  · refine atMostOnce_append_cons_iff.mpr ⟨fun hname => ⟨hname ▸ hdone, by simp⟩, ?_⟩
    rw [List.append_nil]
    exact h.once other hother

/-- Members that are read into the record reach it. -/
theorem Reached.of_readFields {done vs : List (String × Value)} {seen seen' : List String}
    {record result : α} {depth : Nat} (members : Members) (h : R.Reached done seen record)
    (hvs : members.values depth = .ok vs)
    (hread : members.readFields (R.fields.map Field.reader) depth seen record =
      .ok (seen', result)) :
    R.Reached (done ++ vs) seen' result := by
  -- Along the members that are left; what has been passed stands in `done`.
  match members with
  | .closed stop =>
    obtain rfl : [] = vs := by simpa [Members.values] using hvs
    obtain ⟨rfl, rfl⟩ : seen = seen' ∧ record = result := by
      simpa [Members.readFields] using hread
    simpa using h
  | .broken fault offset => simp [Members.values] at hvs
  | .member token value rest =>
    obtain ⟨k, v, ws, hk, hv, hws, rfl⟩ := Members.values_member_eq_ok_iff.mp hvs
    rw [Members.readFields, hk] at hread
    simp only [find?_reader] at hread
    rw [List.append_cons]
    cases hfind : R.fields.find? fun field => field.name == k with
    | none =>
      have hkey : ∀ field ∈ R.fields, field.name ≠ k := by
        intro field hfield
        simpa using List.find?_eq_none.mp hfind field hfield
      simp only [hfind, Option.map_none, Tree.hardFault?_eq_none value hv] at hread
      exact Reached.of_readFields rest (h.pass hkey) hws hread
    | some field =>
      have hfield : field ∈ R.fields := List.mem_of_find?_eq_some hfind
      obtain rfl : field.name = k := by simpa using List.find?_some hfind
      simp only [hfind, Option.map_some] at hread
      split at hread
      · cases hread
      · rename_i hseen
        have hnew : field.name ∉ seen := by simpa using hseen
        cases hstore : field.reader.store depth value record with
        | error e => simp [hstore] at hread
        | ok record' =>
          obtain ⟨part, hpart, rfl⟩ := (field.store_eq_ok_iff hv).mp hstore
          simp only [hstore] at hread
          exact Reached.of_readFields rest (h.store hfield hnew hpart) hws hread

/-- Members whose fields stand once and decode are read into the record. -/
theorem Reached.exists_readFields {done vs : List (String × Value)} {seen : List String}
    {record : α} {depth : Nat} (members : Members) (h : R.Reached done seen record)
    (hvs : members.values depth = .ok vs)
    (honce : ∀ field ∈ R.fields, AtMostOnce field.name (done ++ vs))
    (hparts : ∀ field ∈ R.fields, ∃ target, field.Holds (valueAt? field.name (done ++ vs)) target) :
    ∃ seen' result, members.readFields (R.fields.map Field.reader) depth seen record =
      .ok (seen', result) := by
  match members with
  | .closed stop => exact ⟨seen, record, by rw [Members.readFields]⟩
  | .broken fault offset => simp [Members.values] at hvs
  | .member token value rest =>
    obtain ⟨k, v, ws, hk, hv, hws, rfl⟩ := Members.values_member_eq_ok_iff.mp hvs
    rw [Members.readFields, hk]
    simp only [find?_reader]
    cases hfind : R.fields.find? fun field => field.name == k with
    | none =>
      have hkey : ∀ field ∈ R.fields, field.name ≠ k := by
        intro field hfield
        simpa using List.find?_eq_none.mp hfind field hfield
      rw [List.append_cons] at honce hparts
      simp only [Option.map_none, Tree.hardFault?_eq_none value hv]
      exact Reached.exists_readFields rest (h.pass hkey) hws honce hparts
    | some field =>
      have hfield : field ∈ R.fields := List.mem_of_find?_eq_some hfind
      obtain rfl : field.name = k := by simpa using List.find?_some hfind
      -- The field stands once, so none of the members before this one is under its name.
      have hdone : field.name ∉ done.map Prod.fst :=
        ((atMostOnce_append_cons_iff.mp (honce field hfield)).1 rfl).1
      have hnew : field.name ∉ seen := fun hmem => hdone ((h.seen field hfield).mp hmem)
      obtain ⟨target, htarget⟩ := hparts field hfield
      have hpart : field.decode v = .ok (field.get target) := by
        rw [Field.Holds, valueAt?_append, valueAt?_eq_none_iff.mpr hdone] at htarget
        simpa [valueAt?, partOr] using htarget
      have hstore : field.reader.store depth value record =
          .ok (field.set (field.get target) record) :=
        (field.store_eq_ok_iff hv).mpr ⟨_, hpart, rfl⟩
      rw [List.append_cons] at honce hparts
      obtain ⟨seen', result, hread⟩ :=
        Reached.exists_readFields rest (h.store hfield hnew hpart) hws honce hparts
      refine ⟨seen', result, ?_⟩
      simp [hnew, hstore, hread]

/-- No required field is missing when all of them were seen. -/
theorem missing?_eq_none_iff :
    R.reader.missing? seen = none ↔
      ∀ field ∈ R.fields, field.isRequired = true → field.name ∈ seen := by
  rw [RecordReader.missing?, Option.map_eq_none_iff, List.find?_eq_none, reader,
    List.forall_mem_map]
  refine forall_congr' fun field => forall_congr' fun _ => ?_
  simp [Field.name, Field.isRequired]

/-- Two records with the same parts in every field are one. -/
theorem eq_of_holds {part : Field α → Option Value} {result : α}
    (h : ∀ field ∈ R.fields, field.Holds (part field) record)
    (h' : ∀ field ∈ R.fields, field.Holds (part field) result) : record = result := by
  refine R.ext record result fun field hfield => ?_
  exact Except.ok.inj ((h field hfield).symm.trans (h' field hfield))

/-- A record in object form is read when its fields stand once, the required ones are there, and
each decodes to what the record has in it. -/
theorem reader_object_eq_ok_iff {depth start : Nat} {members : Members}
    {vs : List (String × Value)} (hdepth : ¬depth ≤ 1)
    (hvs : members.values (depth - 1) = .ok vs) {result : α} :
    R.reader.read depth (.object start members) = .ok result ↔
      (∀ field ∈ R.fields, AtMostOnce field.name vs) ∧
      (∀ field ∈ R.fields, field.Holds (valueAt? field.name vs) result) ∧
      ∀ field ∈ R.fields, field.isRequired = true → field.name ∈ vs.map Prod.fst := by
  rw [RecordReader.read, if_neg hdepth]
  constructor
  · intro h
    split at h
    · cases h
    · rename_i seen record hread
      have hreached := R.reached_initial.of_readFields members hvs hread
      split at h
      · cases h
      · rename_i hmissing
        obtain rfl := Except.ok.inj h
        refine ⟨hreached.once, hreached.holds, fun field hfield hrequired => ?_⟩
        exact (hreached.seen field hfield).mp (missing?_eq_none_iff.mp hmissing field hfield hrequired)
  · rintro ⟨honce, hholds, hrequired⟩
    obtain ⟨seen, record, hread⟩ := R.reached_initial.exists_readFields members hvs honce
      fun field hfield => ⟨result, hholds field hfield⟩
    have hreached := R.reached_initial.of_readFields members hvs hread
    have hmissing : R.reader.missing? seen = none := missing?_eq_none_iff.mpr fun field hfield h =>
      (hreached.seen field hfield).mpr (hrequired field hfield h)
    have hrecord : record = result := eq_of_holds hreached.holds hholds
    have hread' : members.readFields R.reader.fields (depth - 1) [] R.reader.initial =
        .ok (seen, record) := hread
    simp only [hread', hmissing, hrecord]

/-! ### Arrays -/

/-- Whether a record has got items into its fields: there are no more items than fields, each field
has what stands at its index or else what it had before, and other fields are left alone. -/
structure Filled (fields : List (Field α)) (vs : List Value) (record result : α) : Prop where
  length : vs.length ≤ fields.length
  holds (index : Nat) (field : Field α) : fields[index]? = some field →
    partOr (field.get record) field.decode vs[index]? = .ok (field.get result)
  spared (other : Field α) : (∀ field ∈ fields, field.Spares other) →
    other.get result = other.get record

/-- Without items nothing changes. -/
theorem filled_nil (fields : List (Field α)) (record : α) : Filled fields [] record record where
  length := Nat.zero_le _
  holds index field _ := by simp [partOr]
  spared other _ := rfl

/-- An item goes into the first field, and the others into the rest. -/
theorem Filled.cons {field : Field α} {fields : List (Field α)} {vs : List Value}
    {record result : α} {part : field.Part}
    (hspares : ∀ other ∈ fields, field.Spares other ∧ other.Spares field)
    (hpart : field.decode v = .ok part) (h : Filled fields vs (field.set part record) result) :
    Filled (field :: fields) (v :: vs) record result where
  length := Nat.succ_le_succ h.length
  holds index other hother := by
    cases index with
    | zero =>
      obtain rfl : field = other := by simpa using hother
      -- The fields behind leave the first one alone.
      have hkept := h.spared field fun other hother => (hspares other hother).2
      rw [hkept, field.get_set]
      simpa [partOr] using hpart
    | succ index =>
      have hother' : fields[index]? = some other := by simpa using hother
      have hmem := List.mem_of_getElem? hother'
      have hholds := h.holds index other hother'
      rw [(hspares other hmem).1 part record] at hholds
      simpa using hholds
  spared other hother := by
    rw [h.spared other fun g hg => hother g (List.mem_cons_of_mem _ hg)]
    exact hother field List.mem_cons_self part record

/-- Items that are read into fields fill them. -/
theorem filled_of_readFields {depth : Nat} {items : Items} {vs : List Value} {record result : α}
    {left : List (FieldReader α)} (fields : List (Field α))
    (hspares : fields.Pairwise fun field other => field.Spares other ∧ other.Spares field)
    (hvs : items.values depth = .ok vs)
    (hread : items.readFields depth record (fields.map Field.reader) = .ok (left, result)) :
    Filled fields vs record result ∧ left = (fields.drop vs.length).map Field.reader := by
  induction fields generalizing items vs record with
  | nil =>
    cases items with
    | closed stop =>
      obtain rfl : [] = vs := by simpa [Items.values] using hvs
      simp only [List.map_nil, Items.readFields, Items.leftover, Except.ok.injEq,
        Prod.mk.injEq] at hread
      obtain ⟨rfl, rfl⟩ := hread
      exact ⟨filled_nil [] record, rfl⟩
    | broken fault offset => simp [Items.values] at hvs
    | item value rest => simp [Items.readFields, Items.leftover] at hread
  | cons field fields ih =>
    cases items with
    | closed stop =>
      obtain rfl : [] = vs := by simpa [Items.values] using hvs
      simp only [List.map_cons, Items.readFields, Except.ok.injEq, Prod.mk.injEq] at hread
      obtain ⟨rfl, rfl⟩ := hread
      exact ⟨filled_nil _ record, rfl⟩
    | broken fault offset => simp [Items.values] at hvs
    | item value rest =>
      obtain ⟨v, ws, hv, hws, rfl⟩ := Items.values_item_eq_ok_iff.mp hvs
      rw [List.map_cons, Items.readFields] at hread
      cases hstore : field.reader.store depth value record with
      | error e => simp [hstore] at hread
      | ok record' =>
        obtain ⟨part, hpart, rfl⟩ := (field.store_eq_ok_iff hv).mp hstore
        simp only [hstore] at hread
        obtain ⟨hfirst, hrest⟩ := List.pairwise_cons.mp hspares
        obtain ⟨hfilled, hleft⟩ := ih hrest hws hread
        exact ⟨hfilled.cons hfirst hpart, by simpa using hleft⟩

/-- Items that are no more than the fields and decode are read into them. -/
theorem exists_readFields {depth : Nat} {items : Items} {vs : List Value} {record : α}
    (fields : List (Field α)) (hvs : items.values depth = .ok vs)
    (hlength : vs.length ≤ fields.length)
    (hparts : ∀ (index : Nat) (field : Field α), fields[index]? = some field → ∀ v ∈ vs[index]?,
      ∃ part, field.decode v = .ok part) :
    ∃ left result, items.readFields depth record (fields.map Field.reader) =
      .ok (left, result) := by
  induction fields generalizing items vs record with
  | nil =>
    cases items with
    | closed stop => exact ⟨[], record, rfl⟩
    | broken fault offset => simp [Items.values] at hvs
    | item value rest =>
      obtain ⟨v, ws, -, -, rfl⟩ := Items.values_item_eq_ok_iff.mp hvs
      simp at hlength
  | cons field fields ih =>
    cases items with
    | closed stop => exact ⟨_, record, rfl⟩
    | broken fault offset => simp [Items.values] at hvs
    | item value rest =>
      obtain ⟨v, ws, hv, hws, rfl⟩ := Items.values_item_eq_ok_iff.mp hvs
      obtain ⟨part, hpart⟩ := hparts 0 field rfl v rfl
      have hstore : field.reader.store depth value record = .ok (field.set part record) :=
        (field.store_eq_ok_iff hv).mpr ⟨part, hpart, rfl⟩
      rw [List.map_cons, Items.readFields, hstore]
      exact ih hws (Nat.le_of_succ_le_succ hlength)
        fun index other hother w hw => hparts (index + 1) other (by simpa using hother) w
          (by simpa using hw)

/-- No required field is left over when none of those behind the items is required. -/
theorem missingIndex?_eq_none_iff {left : List (Field α)} :
    R.reader.missingIndex? (left.map Field.reader) = none ↔
      ∀ field ∈ left, field.isRequired = false := by
  simp [RecordReader.missingIndex?, Field.isRequired]

/-- Every field at its index is the first one and every one behind it. -/
theorem forall_getElem?_cons_iff {field : Field α} {fields : List (Field α)}
    {p : Nat → Field α → Prop} :
    (∀ (index : Nat) (other : Field α), (field :: fields)[index]? = some other → p index other) ↔
      p 0 field ∧
        ∀ (index : Nat) (other : Field α), fields[index]? = some other → p (index + 1) other := by
  constructor
  · intro h
    exact ⟨h 0 field rfl, fun index other hother => h (index + 1) other (by simpa using hother)⟩
  · rintro ⟨hfirst, hrest⟩ index other hother
    cases index with
    | zero =>
      obtain rfl : field = other := by simpa using hother
      exact hfirst
    | succ index => exact hrest index other (by simpa using hother)

/-- The fields of a record leave each other alone. -/
theorem pairwise_spares :
    R.fields.Pairwise fun field other => field.Spares other ∧ other.Spares field := by
  refine R.names.imp_of_mem fun hfield hother hne => ?_
  exact ⟨R.spares _ hfield _ hother hne, R.spares _ hother _ hfield hne.symm⟩

/-- What fills the fields of the initial record has in each what stands at its index. -/
theorem Filled.holds_of_initial {vs : List Value} {record : α}
    (h : Filled R.fields vs R.initial record) {index : Nat} {field : Field α}
    (hfield : R.fields[index]? = some field) : field.Holds vs[index]? record := by
  rw [Field.Holds, ← R.get_initial field (List.mem_of_getElem? hfield)]
  exact h.holds index field hfield

/-- A record in array form is read when it has no more items than fields, the required fields are
among them, and each decodes to what the record has in its field. -/
theorem reader_array_eq_ok_iff {depth start : Nat} {items : Items} {vs : List Value}
    (hdepth : ¬depth ≤ 1) (hvs : items.values (depth - 1) = .ok vs) {result : α} :
    R.reader.read depth (.array start items) = .ok result ↔
      vs.length ≤ R.fields.length ∧
      (∀ (index : Nat) (field : Field α), R.fields[index]? = some field →
        field.Holds vs[index]? result) ∧
      ∀ field ∈ R.fields.drop vs.length, field.isRequired = false := by
  rw [RecordReader.read, if_neg hdepth]
  constructor
  · intro h
    split at h
    · cases h
    · rename_i left record hread
      obtain ⟨hfilled, rfl⟩ := filled_of_readFields R.fields R.pairwise_spares hvs hread
      split at h
      · cases h
      · rename_i hmissing
        obtain rfl := Except.ok.inj h
        exact ⟨hfilled.length, fun _ _ => hfilled.holds_of_initial,
          missingIndex?_eq_none_iff.mp hmissing⟩
  · rintro ⟨hlength, hresult, hrequired⟩
    have hparts : ∀ (index : Nat) (field : Field α), R.fields[index]? = some field →
        ∀ v ∈ vs[index]?, ∃ part, field.decode v = .ok part := by
      intro index field hfield v hv
      have hheld := hresult index field hfield
      rw [hv] at hheld
      exact ⟨_, hheld⟩
    obtain ⟨left, record, hread⟩ : ∃ left record, items.readFields (depth - 1) R.initial
        (R.fields.map Field.reader) = .ok (left, record) :=
      exists_readFields R.fields hvs hlength hparts
    obtain ⟨hfilled, rfl⟩ := filled_of_readFields R.fields R.pairwise_spares hvs hread
    have hrecord : record = result := by
      refine R.ext record result fun field hfield => ?_
      obtain ⟨index, hindex⟩ := List.getElem?_of_mem hfield
      have hboth := (hfilled.holds_of_initial hindex).symm.trans (hresult index field hindex)
      exact Except.ok.inj hboth
    have hread' : items.readFields (depth - 1) R.reader.initial R.reader.fields =
        .ok ((R.fields.drop vs.length).map Field.reader, record) := hread
    simp only [hread', missingIndex?_eq_none_iff.mpr hrequired, hrecord]

/-- A record without required fields is read as it is decoded, when its decoder asks of objects and
arrays what the reader does and takes nothing else. -/
theorem follows {decode : Value → Except DecodeError α}
    (hrequired : ∀ field ∈ R.fields, field.isRequired = false)
    (hobject : ∀ vs result, decode (.object vs) = .ok result ↔
      (∀ field ∈ R.fields, AtMostOnce field.name vs) ∧
      ∀ field ∈ R.fields, field.Holds (valueAt? field.name vs) result)
    (harray : ∀ vs result, decode (.array vs) = .ok result ↔
      vs.length ≤ R.fields.length ∧
      ∀ (index : Nat) (field : Field α), R.fields[index]? = some field →
        field.Holds vs[index]? result)
    (hother : ∀ v result, decode v = .ok result →
      (∃ vs, v = .object vs) ∨ ∃ vs, v = .array vs) :
    Follows R.reader.read decode := by
  intro depth tree v h result
  have hscalar : ∀ v, (∀ vs, v ≠ .object vs) → (∀ vs, v ≠ .array vs) → decode v ≠ .ok result := by
    intro v hnotObject hnotArray hdecode
    rcases hother v result hdecode with ⟨vs, rfl⟩ | ⟨vs, rfl⟩
    · exact hnotObject vs rfl
    · exact hnotArray vs rfl
  cases Tree.shows h with
  | object hdepth hvs =>
    rw [reader_object_eq_ok_iff hdepth hvs, hobject]
    constructor
    · rintro ⟨honce, hholds, -⟩
      exact ⟨honce, hholds⟩
    · rintro ⟨honce, hholds⟩
      exact ⟨honce, hholds, fun field hfield => by simp [hrequired field hfield]⟩
  | array hdepth hvs =>
    rw [reader_array_eq_ok_iff hdepth hvs, harray]
    constructor
    · rintro ⟨hlength, hholds, -⟩
      exact ⟨hlength, hholds⟩
    · rintro ⟨hlength, hholds⟩
      exact ⟨hlength, hholds, fun field hfield => hrequired field (List.mem_of_mem_drop hfield)⟩
  | null | bool | number | string =>
    simp [RecordReader.read, hscalar]

end Record

/-! ## Whole texts -/

/-- A document is decoded when its root is read and nothing stands behind it. -/
theorem Document.decode_eq_ok_iff {α : Type} {document : Document} {reader : TreeReader α} {a : α} :
    document.decode reader = .ok a ↔ reader maxDepth document.root = .ok a ∧ document.extra = none := by
  rw [Document.decode, Document.extraFault?]
  cases reader maxDepth document.root with
  | error e => simp
  | ok b => cases document.extra <;> simp

end PageSketch.Json
