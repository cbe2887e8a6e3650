import Mathlib.Data.List.Forall2
import PageSketch.Command.Run

/-!
# The spellings of keys

A key of the settings is spelled with its label or without, and any underscore may be a hyphen. These
spellings and no others mean the key, so no text spells two keys.
-/

namespace PageSketch

open Command (keyLabel withUnderscores withoutLabel keyOf?)

/-- Whether a text is a name, up to hyphens in the place of underscores. -/
def Hyphenated (text name : String) : Prop :=
  List.Forall₂ (fun c d => c = d ∨ c = '-' ∧ d = '_') text.toList name.toList

namespace SettingKey

/-- The name of a key without the label. -/
def shortName : SettingKey → String
  | apiKey => "api_key"
  | baseUrl => "base_url"
  | model => "model"

/-- Whether a text spells a key: with the label or without, and with hyphens or underscores. -/
def Spelled (key : SettingKey) (text : String) : Prop :=
  Hyphenated text key.name ∨ Hyphenated text key.shortName

/-- The name of a key is its short name behind the label. -/
theorem toList_name (key : SettingKey) : key.name.toList = keyLabel ++ key.shortName.toList := by
  cases key <;> decide

/-- Different keys have different names. -/
theorem name_injective : Function.Injective name := by
  intro key other h
  cases key <;> cases other <;> first | rfl | exact absurd h (by decide)

/-- No short name begins with the label. -/
theorem isPrefixOf_shortName (key : SettingKey) :
    keyLabel.isPrefixOf key.shortName.toList = false := by
  cases key <;> decide

/-- No name has a hyphen. -/
theorem hyphen_not_mem_name (key : SettingKey) : '-' ∉ key.name.toList := by
  cases key <;> decide

/-- No short name has a hyphen. -/
theorem hyphen_not_mem_shortName (key : SettingKey) : '-' ∉ key.shortName.toList := by
  have h := key.hyphen_not_mem_name
  rw [toList_name, List.mem_append, not_or] at h
  exact h.2

end SettingKey

/-- Characters with hyphens for underscores are those that become the name. -/
theorem forall₂_hyphen_iff {text name : List Char} (hname : '-' ∉ name) :
    List.Forall₂ (fun c d => c = d ∨ c = '-' ∧ d = '_') text name ↔
      text.map (fun c => if c = '-' then '_' else c) = name := by
  induction text generalizing name with
  | nil => simp [List.forall₂_nil_left_iff, eq_comm]
  | cons c text ih =>
    cases name with
    | nil => simp
    | cons d name =>
      obtain ⟨hd, hrest⟩ := not_or.mp (mt List.mem_cons.mpr hname)
      rw [List.forall₂_cons, ih hrest, List.map_cons, List.cons.injEq]
      refine and_congr_left fun _ => ?_
      by_cases hc : c = '-'
      · simp [hc, hd, eq_comm]
      · simp [hc]

/-- A text is hyphenated from a name without hyphens when it becomes that name. -/
theorem hyphenated_iff {text name : String} (hname : '-' ∉ name.toList) :
    Hyphenated text name ↔ withUnderscores text = name := by
  rw [Hyphenated, forall₂_hyphen_iff hname, withUnderscores, String.ext_iff, String.toList_ofList]

namespace Command

/-- What is left of a text without its label is a name when the text is that name, with the label or
without. -/
theorem withoutLabel_eq_iff {text short : String}
    (hshort : keyLabel.isPrefixOf short.toList = false) :
    withoutLabel text = short ↔ text.toList = keyLabel ++ short.toList ∨ text = short := by
  rw [withoutLabel]
  cases hlabel : keyLabel.isPrefixOf text.toList with
  | true =>
    obtain ⟨rest, hrest⟩ := List.isPrefixOf_iff_prefix.mp hlabel
    have hne : text ≠ short := by
      rintro rfl
      rw [hlabel] at hshort
      cases hshort
    simp [← hrest, hne, String.ext_iff]
  | false =>
    have hne : text.toList ≠ keyLabel ++ short.toList := by
      intro h
      rw [h, List.isPrefixOf_iff_prefix.mpr (List.prefix_append _ _)] at hlabel
      cases hlabel
    simp [hne]

/-- A name means a key when what is left of it without its label is the short name of the key. -/
theorem keyOf?_eq_some_iff_withoutLabel {name : String} {key : SettingKey} :
    keyOf? name = some key ↔ withoutLabel (withUnderscores name) = key.shortName := by
  simp only [keyOf?]
  generalize withoutLabel (withUnderscores name) = short
  constructor
  · intro h
    split_ifs at h with hapi hbase hmodel <;> cases h <;> assumption
  · rintro rfl
    cases key <;> decide

/-- A name means the key that it spells. -/
theorem keyOf?_eq_some_iff {name : String} {key : SettingKey} :
    keyOf? name = some key ↔ key.Spelled name := by
  rw [keyOf?_eq_some_iff_withoutLabel, withoutLabel_eq_iff key.isPrefixOf_shortName,
    SettingKey.Spelled, hyphenated_iff key.hyphen_not_mem_name,
    hyphenated_iff key.hyphen_not_mem_shortName, ← key.toList_name, String.toList_inj]

end Command

end PageSketch
