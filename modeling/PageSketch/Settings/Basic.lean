import PageSketch.Json.Record
import PageSketch.Json.Writer
import PageSketch.Keyed
import PageSketch.Text.Property

/-!
# Settings

Settings are texts under keys, with the keys in ascending order. Three keys say which model is
asked, where, and with which API key; for them a blank text counts as none. Settings are written as a
JSON object of strings with one entry a line. Reading accepts every such object; the last one of
repeated keys counts. A refusal says where in the text it was noticed.
-/

namespace PageSketch

/-- Texts under ascending keys. -/
structure Settings where
  entries : List (String × String)
  ascending : Ascending entries

namespace Settings

/-- No settings. -/
def empty : Settings := ⟨[], List.Pairwise.nil⟩

/-- The text under a key. -/
def get? (settings : Settings) (key : String) : Option String := valueAt? key settings.entries

/-- Sets a text. -/
def set (settings : Settings) (key value : String) : Settings :=
  ⟨putSorted key value settings.entries, settings.ascending.putSorted key value⟩

/-- Takes a key out. -/
def erase (settings : Settings) (key : String) : Settings :=
  ⟨without key settings.entries, settings.ascending.without key⟩

/-- Sets texts one after another. -/
def ofList (entries : List (String × String)) : Settings :=
  entries.foldl (fun settings entry => settings.set entry.1 entry.2) empty

/-- What was set is there. -/
@[simp] theorem get?_set_self (settings : Settings) (key value : String) :
    (settings.set key value).get? key = some value :=
  valueAt?_putSorted_self key value settings.entries

/-- Setting leaves the other keys alone. -/
theorem get?_set_of_ne (settings : Settings) {key other : String} (h : other ≠ key)
    (value : String) : (settings.set key value).get? other = settings.get? other :=
  valueAt?_putSorted_of_ne h value settings.entries

/-- What was taken out is gone. -/
@[simp] theorem get?_erase_self (settings : Settings) (key : String) :
    (settings.erase key).get? key = none :=
  valueAt?_without_self key settings.entries

/-- Taking out leaves the other keys alone. -/
theorem get?_erase_of_ne (settings : Settings) {key other : String} (h : other ≠ key) :
    (settings.erase key).get? other = settings.get? other :=
  valueAt?_without_of_ne h settings.entries

end Settings

/-! ## The model -/

/-- The settings that the program reads. -/
inductive SettingKey where
  | apiKey
  | baseUrl
  | model
deriving DecidableEq, Repr

namespace SettingKey

/-- The key in the settings. -/
def name : SettingKey → String
  | apiKey => "nl2ui_api_key"
  | baseUrl => "nl2ui_base_url"
  | model => "nl2ui_model"

/-- All keys, in the order in which they are shown. -/
def all : List SettingKey := [apiKey, baseUrl, model]

end SettingKey

/-- Which model is asked, where, and with which API key. -/
structure ModelSettings where
  apiKey : Option String
  baseUrl : Option String
  model : Option String
deriving DecidableEq, Repr

/-- The text under a key without the blanks around it, unless nothing is left of it. -/
def Settings.filled? (settings : Settings) (key : SettingKey) : Option String :=
  ((settings.get? key.name).map Text.trim).filter fun text => !text.isEmpty

/-- The settings of the model. -/
def Settings.forModel (settings : Settings) : ModelSettings :=
  ⟨settings.filled? .apiKey, settings.filled? .baseUrl, settings.filled? .model⟩

/-! ## The text of settings -/

open Json (DecodeError Position Outline)

/-- The text of settings. -/
def Settings.text (settings : Settings) : String :=
  (Outline.record (settings.entries.map fun entry => (entry.1, Outline.string entry.2))).pretty 0

/-- A text that does not hold settings: why, and where that was noticed. -/
structure SettingsFault where
  error : DecodeError
  position : Position

/-- The message of a fault. -/
def SettingsFault.message (fault : SettingsFault) : String :=
  fault.error.message ++ fault.position.suffix

/-- The settings in a text. -/
def Settings.read (text : String) : Except SettingsFault Settings :=
  match Json.readTextMap text.toList with
  | .ok entries => .ok (.ofList entries)
  | .error (error, offset) => .error ⟨error, .of text.toList offset⟩

end PageSketch
