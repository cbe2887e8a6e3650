import PageSketch.Proofs.Json.Record
import PageSketch.Proofs.Json.Writing
import PageSketch.Settings.Basic

/-!
# Settings and their text

The texts that hold settings are the JSON objects of strings, and such a text holds the last string
of each of its keys. Settings are read back from the text that they are written as.
-/

namespace PageSketch

namespace Json

/-! ## Objects of texts -/

/-- The object with texts under its keys. -/
def textObject (entries : List (String × String)) : Value := .object (mapValues .string entries)

/-- The trees that are read as a text are those with that text as their value. -/
theorem Tree.textAt_eq_ok_iff {tree : Tree} {text : String} (depth : Nat) :
    tree.textAt = .ok text ↔ tree.value depth = .ok (.string text) := by
  constructor
  · intro h
    cases tree with
    | string token =>
      rw [Tree.textAt] at h
      cases htext : token.text with
      | error e => simp [htext] at h
      | ok found =>
        rw [htext, Except.ok.injEq] at h
        rw [Tree.value, htext, h]
        rfl
    | null | bool | number | array | object | broken => simp [Tree.textAt] at h
  · intro h
    cases Tree.shows h with
    | string htext => simp only [Tree.textAt, htext]

/-- The members that are read as texts are those with these texts as their values. -/
theorem Members.textsAt_eq_ok_iff {members : Members} {entries : List (String × String)}
    (depth : Nat) :
    members.textsAt = .ok entries ↔ members.values depth = .ok (mapValues .string entries) := by
  match members with
  | .closed stop => cases entries <;> simp [Members.textsAt, Members.values, mapValues]
  | .broken fault offset => simp [Members.textsAt, Members.values]
  | .member key value rest =>
    rw [Members.values_member_eq_ok_iff, Members.textsAt]
    constructor
    · intro h
      split at h
      · cases h
      · rename_i name hname
        split at h
        · cases h
        · rename_i text htext
          split at h
          · cases h
          · rename_i others hothers
            obtain rfl := Except.ok.inj h
            exact ⟨name, .string text, mapValues .string others, hname,
              (Tree.textAt_eq_ok_iff depth).mp htext,
              (Members.textsAt_eq_ok_iff depth).mp hothers, rfl⟩
    · rintro ⟨name, v, others, hname, hvalue, hrest, heq⟩
      cases entries with
      | nil => cases heq
      | cons entry entries =>
        obtain ⟨hentry, rfl⟩ := List.cons.inj heq
        obtain ⟨rfl, rfl⟩ := Prod.mk.inj hentry
        simp only [hname, (Tree.textAt_eq_ok_iff depth).mpr hvalue,
          (Members.textsAt_eq_ok_iff depth).mpr hrest]

/-- The trees that are read as an object of texts are those with that object as their value. -/
theorem Tree.mapAt_eq_ok_iff {tree : Tree} {entries : List (String × String)} :
    tree.mapAt = .ok entries ↔ tree.value maxDepth = .ok (textObject entries) := by
  constructor
  · intro h
    cases tree with
    | object start members =>
      refine Tree.value_object_eq_ok_iff.mpr ⟨by decide, _, ?_, rfl⟩
      exact (Members.textsAt_eq_ok_iff _).mp h
    | null | bool | number | string | array | broken => simp [Tree.mapAt] at h
  · intro h
    cases Tree.shows h with
    | object enters values => exact (Members.textsAt_eq_ok_iff _).mpr values

/-- A text is read as an object of texts when it spells that object. -/
theorem readTextMap_eq_ok_iff {text : List Char} {entries : List (String × String)} :
    readTextMap text = .ok entries ↔ SpellsValue text (textObject entries) := by
  rw [← read_value_eq_ok_iff, Document.value_eq_ok_iff, ← Tree.mapAt_eq_ok_iff, readTextMap,
    Document.extraFault?]
  cases (Document.read text).root.mapAt with
  | error refusal => simp
  | ok found => cases (Document.read text).extra <;> simp

end Json

open Json (SpellsValue textObject)

namespace Settings

/-! ## Settings as maps -/

/-- Settings with the same text under every key are the same. -/
theorem ext_get? {settings others : Settings} (h : ∀ key, settings.get? key = others.get? key) :
    settings = others := by
  obtain ⟨entries, hentries⟩ := settings
  obtain ⟨entries', hentries'⟩ := others
  obtain rfl := hentries.ext hentries' h
  rfl

/-- Setting texts one after another leaves the last one of each key, or what was there before. -/
theorem get?_foldl_set (entries : List (String × String)) (settings : Settings) (key : String) :
    (entries.foldl (fun settings entry => settings.set entry.1 entry.2) settings).get? key =
      (lastAt? key entries).or (settings.get? key) := by
  induction entries generalizing settings with
  | nil => rfl
  | cons entry rest ih =>
    obtain ⟨name, text⟩ := entry
    rw [List.foldl_cons, ih, lastAt?, Option.or_assoc]
    congr 1
    by_cases h : name = key
    · simp [h]
    · simp [h, get?_set_of_ne settings (Ne.symm h)]

/-- Settings from a list hold the last text of each key. -/
@[simp] theorem get?_ofList (entries : List (String × String)) (key : String) :
    (ofList entries).get? key = lastAt? key entries := by
  rw [ofList, get?_foldl_set]
  exact Option.or_none

/-! ## Settings as texts -/

/-- A text holds settings when it spells an object of texts; then it holds the last text of each
key. -/
theorem read_eq_ok_iff {text : String} {settings : Settings} :
    read text = .ok settings ↔
      ∃ entries, SpellsValue text.toList (textObject entries) ∧
        ∀ key, settings.get? key = lastAt? key entries := by
  simp only [← Json.readTextMap_eq_ok_iff, read]
  constructor
  · intro h
    split at h
    · rename_i entries hentries
      obtain rfl := Except.ok.inj h
      exact ⟨entries, hentries, get?_ofList entries⟩
    · cases h
  · rintro ⟨entries, hentries, hget⟩
    have hsettings : ofList entries = settings := ext_get? fun key => by rw [get?_ofList, hget]
    rw [hentries]
    exact congrArg Except.ok hsettings

/-- The outlines of texts. -/
theorem outlineMembers_mapValues_string (entries : List (String × String)) :
    Json.Value.outlineMembers (mapValues .string entries) =
      entries.map fun entry => (entry.1, Json.Outline.string entry.2) := by
  induction entries with
  | nil => rfl
  | cons entry rest ih => exact congrArg _ ih

/-- The text of settings is that of an object of texts. -/
theorem text_eq_pretty (settings : Settings) :
    settings.text = (textObject settings.entries).pretty := by
  rw [text, Json.Value.pretty, textObject, Json.Value.outline, outlineMembers_mapValues_string]

/-- An object of texts is nested once. -/
theorem nesting_textObject_le (entries : List (String × String)) :
    (textObject entries).nesting ≤ 1 := by
  refine Nat.succ_le_succ (Json.Value.memberNesting_le_iff.mpr fun member hmember => ?_)
  obtain ⟨entry, -, rfl⟩ := List.mem_map.mp hmember
  exact Nat.le_refl 0

/-- An object of texts has no numbers, so it rereads as itself. -/
theorem reread?_textObject (entries : List (String × String)) :
    (textObject entries).reread? = some (textObject entries) := by
  refine (Json.Value.reread?_eq_self_iff _).mpr (Json.Value.everywhere_object.mpr ⟨trivial, ?_⟩)
  intro member hmember
  obtain ⟨entry, -, rfl⟩ := List.mem_map.mp hmember
  trivial

/-- Settings are read back from their text. -/
@[simp] theorem read_text (settings : Settings) : read settings.text = .ok settings := by
  refine read_eq_ok_iff.mpr ⟨settings.entries, ?_, fun key => ?_⟩
  · rw [text_eq_pretty]
    have hnesting := nesting_textObject_le settings.entries
    refine Json.Value.spellsValue_pretty_iff.mpr ⟨?_, reread?_textObject settings.entries⟩
    rw [Json.maxDepth]
    omega
  · rw [settings.ascending.keysOnce.lastAt?_eq]
    rfl

end Settings

end PageSketch
