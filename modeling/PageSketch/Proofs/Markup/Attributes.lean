import PageSketch.Proofs.Markup.Structure

/-!
# Attributes hold their values

A scanner for the attributes of a tag: a name up to `=`, a value between double quotes, and a single
space before the next name. It takes values as they stand and knows nothing of props. The attributes
of props are split into one attribute for each prop, in their order, whatever the values are: no
text and no key inside a value adds, removes, merges or renames an attribute.
-/

namespace PageSketch

namespace Markup

open Json (Value)

/-- An attribute: its name and its value. -/
structure Attribute where
  name : String
  value : String
deriving DecidableEq

/-! ## The scanner -/

mutual

/-- Reads on in a name, which ends at the first `=`. -/
def scanName (name : String) : List Char → Option (List Attribute)
  | [] => none
  | c :: rest => if c = '=' then scanOpening name rest else scanName (name.push c) rest
termination_by structural cs => cs

/-- Reads the quote that opens a value. -/
def scanOpening (name : String) : List Char → Option (List Attribute)
  | [] => none
  | c :: rest => if c = '"' then scanValue name "" rest else none
termination_by structural cs => cs

/-- Reads on in a value, which ends at the next quote. -/
def scanValue (name value : String) : List Char → Option (List Attribute)
  | [] => none
  | c :: rest =>
    if c = '"' then (scanBehind rest).map (⟨name, value⟩ :: ·)
    else scanValue name (value.push c) rest
termination_by structural cs => cs

/-- Reads on behind a value: nothing more, or a space and the next name. -/
def scanBehind : List Char → Option (List Attribute)
  | [] => some []
  | c :: rest => if c = ' ' then scanName "" rest else none
termination_by structural cs => cs

end

/-- Splits a text into attributes, with their values as they stand. -/
def scanAttributes? (text : String) : Option (List Attribute) :=
  if text.isEmpty then some [] else scanName "" text.toList

/-! ## The attributes of props -/

/-- What the attribute of a prop says: a text under the key of the prop, or any other value as an
expression under the key behind a colon. -/
def Attribute.ofProp (key : String) : Value → Attribute
  | .string text => ⟨key, text⟩
  | value => ⟨":" ++ key, literal value⟩

/-- An attribute with the quotes in its value escaped. -/
def Attribute.escaped (a : Attribute) : Attribute := ⟨a.name, escapeAttribute a.value⟩

/-- An attribute as it is written. -/
def Attribute.text (a : Attribute) : String := a.name ++ "=\"" ++ a.value ++ "\""

/-- What the attributes of props say, one attribute for each prop in their order. -/
def Attribute.ofProps (props : Props) : List Attribute :=
  props.map fun prop => ofProp prop.1 prop.2

/-- What is written of a prop is what its attribute says, escaped. -/
theorem attributeText_eq (key : String) (value : Value) :
    attributeText key value = (Attribute.ofProp key value).escaped.text := by
  cases value <;> rfl

/-- So the attributes of props are written one by one. -/
theorem attributesText_eq (props : Props) :
    attributesText props =
      " ".intercalate (((Attribute.ofProps props).map Attribute.escaped).map Attribute.text) := by
  rw [attributesText, Attribute.ofProps, List.map_map, List.map_map]
  exact congrArg _ (List.map_congr_left fun prop _ => attributeText_eq prop.1 prop.2)

/-- No `=` is in the name of an attribute if none is in the key. -/
theorem equals_not_mem_name {key : String} (h : '=' ∉ key.toList) (value : Value) :
    '=' ∉ (Attribute.ofProp key value).name.toList := by
  unfold Attribute.ofProp
  split
  · exact h
  · rw [String.toList_append, List.mem_append, not_or]
    exact ⟨by decide, h⟩

/-- Whether a prop is a text. -/
def isText : Value → Bool
  | .string _ => true
  | _ => false

/-- The name of an attribute is decided by the key and by whether the value is a text. -/
theorem name_ofProp (key : String) (value : Value) :
    (Attribute.ofProp key value).name = if isText value then key else ":" ++ key := by
  cases value <;> rfl

/-- So the names of attributes are computed from the keys and kinds of the props. -/
theorem names_ofProps (props : Props) :
    ((Attribute.ofProps props).map Attribute.escaped).map Attribute.name =
      (props.map fun prop => (prop.1, isText prop.2)).map fun pair =>
        if pair.2 then pair.1 else ":" ++ pair.1 := by
  rw [Attribute.ofProps, List.map_map, List.map_map, List.map_map]
  exact List.map_congr_left fun prop _ => name_ofProp prop.1 prop.2

/-! ## Scanning them -/

/-- A character that has been read comes before those that are still to be read. -/
theorem push_append_ofList (read : String) (c : Char) (cs : List Char) :
    read.push c ++ String.ofList cs = read ++ String.ofList (c :: cs) := by
  simp [← String.toList_inj]

/-- A name is read up to its `=`. -/
theorem scanName_append (read : String) {cs : List Char} (h : '=' ∉ cs) (rest : List Char) :
    scanName read (cs ++ '=' :: rest) = scanOpening (read ++ String.ofList cs) rest := by
  induction cs generalizing read with
  | nil => simp [scanName]
  | cons c cs ih =>
    obtain ⟨hc, hcs⟩ := List.ne_and_not_mem_of_not_mem_cons h
    rw [List.cons_append, scanName, if_neg hc.symm, ih (read.push c) hcs, push_append_ofList]

/-- A value is read up to its quote. -/
theorem scanValue_append (name read : String) {cs : List Char} (h : '"' ∉ cs) (rest : List Char) :
    scanValue name read (cs ++ '"' :: rest) =
      (scanBehind rest).map (⟨name, read ++ String.ofList cs⟩ :: ·) := by
  induction cs generalizing read with
  | nil => simp [scanValue]
  | cons c cs ih =>
    obtain ⟨hc, hcs⟩ := List.ne_and_not_mem_of_not_mem_cons h
    rw [List.cons_append, scanValue, if_neg hc.symm, ih (read.push c) hcs, push_append_ofList]

/-- An attribute is read up to the end of its value. -/
theorem scanName_text {a : Attribute} (hname : '=' ∉ a.name.toList) (hvalue : '"' ∉ a.value.toList)
    (rest : List Char) :
    scanName "" (a.text.toList ++ rest) = (scanBehind rest).map (a :: ·) := by
  have htext : a.text.toList ++ rest =
      a.name.toList ++ '=' :: '"' :: (a.value.toList ++ '"' :: rest) := by
    simp [Attribute.text]
  rw [htext, scanName_append "" hname, scanOpening, if_pos rfl, scanValue_append _ "" hvalue,
    String.empty_append, String.empty_append, String.ofList_toList, String.ofList_toList]

/-- The attribute of a prop is read, whatever its value is. -/
theorem scanName_attributeText {key : String} (h : '=' ∉ key.toList) (value : Value)
    (rest : List Char) :
    scanName "" ((attributeText key value).toList ++ rest) =
      (scanBehind rest).map ((Attribute.ofProp key value).escaped :: ·) := by
  have hname : '=' ∉ (Attribute.ofProp key value).escaped.name.toList := equals_not_mem_name h value
  have hvalue : '"' ∉ (Attribute.ofProp key value).escaped.value.toList :=
    quote_not_mem_escapeAttribute (Attribute.ofProp key value).value
  rw [attributeText_eq, scanName_text hname hvalue]

/-- The attributes of some props are read one after the other. -/
theorem scanName_attributesText {props : Props} (hne : props ≠ [])
    (h : ∀ prop ∈ props, '=' ∉ prop.1.toList) :
    scanName "" (attributesText props).toList =
      some ((Attribute.ofProps props).map Attribute.escaped) := by
  match props with
  | [] => exact absurd rfl hne
  | [prop] =>
    have hread := scanName_attributeText (h prop List.mem_cons_self) prop.2 []
    rw [List.append_nil] at hread
    rw [toList_attributesText_singleton, hread]
    rfl
  | prop :: next :: rest =>
    obtain ⟨hprop, hrest⟩ := List.forall_mem_cons.mp h
    have ih := scanName_attributesText (List.cons_ne_nil next rest) hrest
    rw [toList_attributesText_cons_cons, scanName_attributeText hprop, scanBehind, if_pos rfl, ih]
    rfl

/-- The attributes of props are split into one attribute for each prop. -/
theorem scanAttributes?_attributesText {props : Props}
    (h : ∀ prop ∈ props, '=' ∉ prop.1.toList) :
    scanAttributes? (attributesText props) =
      some ((Attribute.ofProps props).map Attribute.escaped) := by
  cases props with
  | nil => rfl
  | cons prop rest =>
    have hread := scanName_attributesText (List.cons_ne_nil prop rest) h
    unfold scanAttributes?
    split
    · rename_i hempty
      -- A name without an end is not read, so the text of some attributes is not empty.
      rw [String.isEmpty_iff.mp hempty] at hread
      exact absurd hread (Option.some_ne_none _).symm
    · exact hread

/-- A key that is free of marks has no `=` if that is one of them. -/
theorem equals_not_mem_of_freeOf {props : Props} (h : ∀ prop ∈ props, FreeOf ['"', '='] prop.1) :
    ∀ prop ∈ props, '=' ∉ prop.1.toList :=
  fun prop hprop hmem => (h prop hprop).ne_of_mem (.inl (by decide)) '=' hmem rfl

/-- No value breaks out of its attribute: the attributes of props with plain keys are split
completely into one attribute for each prop, in their order, with its name and its escaped value.
Other values of the same kinds under the same keys have attributes of the same names. -/
theorem attributes_hold_values {props : Props} (h : ∀ prop ∈ props, FreeOf ['"', '='] prop.1) :
    scanAttributes? (attributesText props) =
        some ((Attribute.ofProps props).map Attribute.escaped) ∧
      ∀ others : Props,
        others.map (fun prop => (prop.1, isText prop.2)) =
            props.map (fun prop => (prop.1, isText prop.2)) →
          (scanAttributes? (attributesText others)).map (·.map Attribute.name) =
            (scanAttributes? (attributesText props)).map (·.map Attribute.name) := by
  have hequals := equals_not_mem_of_freeOf h
  refine ⟨scanAttributes?_attributesText hequals, fun others hsame => ?_⟩
  have hkeys : others.map Prod.fst = props.map Prod.fst := by
    have hfst := congrArg (List.map Prod.fst) hsame
    rwa [List.map_map, List.map_map] at hfst
  have hothers : ∀ prop ∈ others, '=' ∉ prop.1.toList := by
    intro prop hprop
    have hmem : prop.1 ∈ props.map Prod.fst := by
      rw [← hkeys]
      exact List.mem_map_of_mem hprop
    obtain ⟨prop', hprop', hkey⟩ := List.mem_map.mp hmem
    rw [← hkey]
    exact hequals prop' hprop'
  rw [scanAttributes?_attributesText hequals, scanAttributes?_attributesText hothers,
    Option.map_some, Option.map_some, names_ofProps, names_ofProps, hsame]

/-- Props whose values look like attributes, in a text, a nested text and a nested key. -/
def attributeLike : Props :=
  [("title", .string "a\" b=\"c\" :d=\"e"),
    ("rows", .array [.object [("\" f=\"", .string "g='\">")]])]

/-- They are two attributes all the same, and so are other values in their places. -/
theorem attributes_hold_values_attributeLike :
    (∀ prop ∈ attributeLike, FreeOf ['"', '='] prop.1) ∧
      scanAttributes? (attributesText attributeLike) =
        some [⟨"title", "a&quot; b=&quot;c&quot; :d=&quot;e"⟩,
          ⟨":rows", "[\x7b '&quot; f=&quot;': 'g=\\'&quot;>' \x7d]"⟩] ∧
      (scanAttributes? (attributesText [("title", .string ""), ("rows", .null)])).map
          (·.map Attribute.name) = some ["title", ":rows"] := by
  have hkeys : ∀ prop ∈ attributeLike, FreeOf ['"', '='] prop.1 := by
    refine List.forall_mem_cons.mpr ⟨?_, List.forall_mem_singleton.mpr ?_⟩
    · exact (by decide : FreeOf ['"', '='] "title")
    · exact (by decide : FreeOf ['"', '='] "rows")
  obtain ⟨hscan, hnames⟩ := attributes_hold_values hkeys
  refine ⟨hkeys, hscan.trans (by decide +kernel), ?_⟩
  exact (hnames [("title", .string ""), ("rows", .null)] rfl).trans (by rw [hscan]; rfl)

end Markup

end PageSketch
