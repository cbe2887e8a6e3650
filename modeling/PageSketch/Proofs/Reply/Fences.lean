import PageSketch.Generation.Reply
import PageSketch.Proofs.Json.Respelling
import PageSketch.Proofs.Json.Writing
import PageSketch.Proofs.Text.Blank
import PageSketch.Proofs.Text.Search

/-!
# Fences in written values

Fences are removed from a text before it is taken as JSON, wherever they stand. In the text of a value
they can only stand within strings, since nothing else is written with a backtick; and no escape has
one either. So removing the fences from the text of a value gives the text of the value without the
fences in its strings and keys.
-/

namespace PageSketch.Reply

open Json

/-! ## Strings -/

/-- Whether a mark begins with a backtick and has only characters that a string has unescaped. -/
structure IsFence (mark : List Char) : Prop where
  begins : ∃ others, mark = '\x60' :: others
  plain : ∀ c ∈ mark, c ≠ '"' ∧ c ≠ '\\' ∧ 0x20 ≤ c.toNat

/-- The opening fence is such a mark. -/
theorem isFence_jsonFence : IsFence jsonFence := ⟨⟨_, rfl⟩, by simp [jsonFence]⟩

/-- The bare fence is such a mark. -/
theorem isFence_fence : IsFence fence := ⟨⟨_, rfl⟩, by simp [fence]⟩

/-- A fence is not empty. -/
theorem IsFence.ne_nil {mark : List Char} (h : IsFence mark) : mark ≠ [] := by
  obtain ⟨others, rfl⟩ := h.begins
  exact List.cons_ne_nil _ _

/-- A part without a backtick is kept. -/
theorem IsFence.removes {mark cs : List Char} (h : IsFence mark) (hcs : '\x60' ∉ cs) :
    Text.Removes mark cs cs := by
  obtain ⟨others, rfl⟩ := h.begins
  exact Text.removes_of_not_mem hcs

/-- A character in a string stands for itself, or behind a backslash without a backtick. -/
theorem escapeChar_cases (c : Char) :
    escapeChar c = [c] ∨ ∃ rest, escapeChar c = '\\' :: rest ∧ '\x60' ∉ rest := by
  unfold escapeChar
  iterate 7
    split
    · exact .inr ⟨_, rfl, by decide⟩
  split
  · have hdigits : ∀ d < 16, '\x60' ≠ Nat.digitChar d := by decide
    have hdigit : ∀ n, '\x60' ≠ Text.hexDigit n := fun n => hdigits _ (Nat.mod_lt n (by decide))
    exact .inr ⟨_, rfl, by simp [hdigit]⟩
  · exact .inl rfl

/-- What the characters of a fence are written as in a string. -/
theorem IsFence.flatMap_escapeChar {mark : List Char} (h : IsFence mark) :
    mark.flatMap escapeChar = mark := by
  have hplain := h.plain
  clear h
  induction mark with
  | nil => rfl
  | cons c others ih =>
    obtain ⟨⟨hquote, hbackslash, hcontrol⟩, hothers⟩ := List.forall_mem_cons.mp hplain
    rw [List.flatMap_cons, escapeChar_of_plain hquote hbackslash hcontrol, ih hothers,
      List.singleton_append]

/-- A written string begins with plain characters only if the string does. -/
theorem isPrefix_of_escaped {mark : List Char} (h : ∀ c ∈ mark, c ≠ '"' ∧ c ≠ '\\')
    {cs rest : List Char} (hbegins : mark <+: cs.flatMap escapeChar ++ '"' :: rest) :
    mark <+: cs := by
  induction mark generalizing cs with
  | nil => exact List.nil_prefix
  | cons m ms ih =>
    obtain ⟨⟨hquote, hbackslash⟩, hms⟩ := List.forall_mem_cons.mp h
    cases cs with
    | nil =>
      rw [List.flatMap_nil, List.nil_append, List.cons_prefix_cons] at hbegins
      exact absurd hbegins.1 hquote
    | cons c cs =>
      rw [List.flatMap_cons] at hbegins
      rcases escapeChar_cases c with hc | ⟨others, hc, -⟩
      · rw [hc, List.singleton_append, List.cons_append, List.cons_prefix_cons] at hbegins
        exact List.cons_prefix_cons.mpr ⟨hbegins.1, ih hms hbegins.2⟩
      · rw [hc, List.cons_append, List.cons_append, List.cons_prefix_cons] at hbegins
        exact absurd hbegins.1 hbackslash

/-- Removing a fence from the characters of a written string removes it from those of the string. -/
theorem removeAll_escaped {mark : List Char} (h : IsFence mark) (cs rest : List Char) :
    Text.removeAll mark (cs.flatMap escapeChar ++ '"' :: rest) =
      (Text.removeAll mark cs).flatMap escapeChar ++ '"' :: Text.removeAll mark rest := by
  have hplain : ∀ c ∈ mark, c ≠ '"' ∧ c ≠ '\\' := fun c hc =>
    ⟨(h.plain c hc).1, (h.plain c hc).2.1⟩
  induction cs using Text.removal_induction h.ne_nil with
  | nil =>
    have hquote : Text.Removes mark ['"'] ['"'] := h.removes (by decide)
    exact hquote rest
  | dropped cs ih =>
    rw [List.flatMap_append, h.flatMap_escapeChar, List.append_assoc,
      Text.removeAll_append h.ne_nil, ih, Text.removeAll_append h.ne_nil]
  | kept c cs hkept ih =>
    rw [Text.removeAll_cons hkept, List.flatMap_cons, List.flatMap_cons, List.append_assoc,
      List.append_assoc, ← ih]
    rcases escapeChar_cases c with hc | ⟨others, hc, hothers⟩
    · -- The character stands for itself, and a fence from here on would be one in the string.
      have hescaped : ¬mark <+: c :: (cs.flatMap escapeChar ++ '"' :: rest) := by
        intro hbegins
        have hwhole : mark <+: (c :: cs).flatMap escapeChar ++ '"' :: rest := by
          rwa [List.flatMap_cons, hc, List.singleton_append, List.cons_append]
        exact hkept (isPrefix_of_escaped hplain hwhole)
      rw [hc, List.singleton_append, List.singleton_append, Text.removeAll_cons hescaped]
    · have hmem : '\x60' ∉ escapeChar c := by simpa [hc] using hothers
      exact h.removes hmem _

/-- The text without the occurrences of a mark. -/
def removeText (mark : List Char) (text : String) : String :=
  String.ofList (Text.removeAll mark text.toList)

/-- Whether removing a mark turns a text into another one, whatever follows it. -/
def RemovesText (mark : List Char) (before after : String) : Prop :=
  Text.Removes mark before.toList after.toList

/-- Of two texts one after the other the mark is removed in each. -/
theorem RemovesText.append {mark : List Char} {before after before' after' : String}
    (h : RemovesText mark before after) (h' : RemovesText mark before' after') :
    RemovesText mark (before ++ before') (after ++ after') := by
  rw [RemovesText, String.toList_append, String.toList_append]
  exact Text.Removes.append h h'

/-- A text without a backtick is kept. -/
theorem IsFence.removesText {mark : List Char} (h : IsFence mark) (text : String)
    (htext : '\x60' ∉ text.toList) : RemovesText mark text text := h.removes htext

/-- Removing a fence from a written string removes it from the string. -/
theorem removes_writeString {mark : List Char} (h : IsFence mark) (text : String) :
    RemovesText mark (writeString text) (writeString (removeText mark text)) := by
  intro rest
  have hquote : Text.Removes mark ['"'] ['"'] := h.removes (by decide)
  have hbehind := hquote (text.toList.flatMap escapeChar ++ '"' :: rest)
  rw [removeAll_escaped h] at hbehind
  simpa [toList_writeString, removeText] using hbehind

/-! ## Values -/

/-- A numeral has no backtick. -/
theorem not_mem_of_numeralText {text : List Char} {numeral : Numeral}
    (h : NumeralText text numeral) : '\x60' ∉ text :=
  fun hmem => absurd (h.isDigit_or_mem hmem) (by decide)

/-- A line break and its indentation have no backtick. -/
theorem not_mem_newLine (level : Nat) : '\x60' ∉ (Outline.newLine level).toList := by
  intro hmem
  have hblank := Outline.areBlanks_newLine level _ hmem
  revert hblank
  decide

mutual

/-- Removing a fence from the text of a value removes it from the strings and keys of the value. -/
theorem removes_pretty {mark : List Char} (h : IsFence mark) (v : Value) (level : Nat) :
    RemovesText mark (v.outline.pretty level)
      ((v.respell (removeText mark) id).outline.pretty level) := by
  -- Only strings and keys can have a backtick; what stands between them is kept.
  have hline := fun level => h.removesText _ (not_mem_newLine level)
  match v with
  | .null => exact h.removesText "null" (by decide)
  | .bool true => exact h.removesText "true" (by decide)
  | .bool false => exact h.removesText "false" (by decide)
  | .number n =>
    obtain ⟨numeral, htext⟩ := n.exists_numeralText
    exact h.removesText _ (not_mem_of_numeralText htext)
  | .string s => exact removes_writeString h s
  | .array [] => exact h.removesText "[]" (by decide)
  | .array (item :: rest) =>
    have hitem := removes_pretty h item (level + 1)
    have hrest := removes_prettyItems h rest (level + 1)
    have hopen := h.removesText "[" (by decide)
    have hclose := h.removesText "]" (by decide)
    exact ((((hopen.append (hline _)).append hitem).append hrest).append (hline _)).append hclose
  | .object [] => exact h.removesText "\x7b\x7d" (by decide)
  | .object ((key, value) :: rest) =>
    have hkey := removes_writeString h key
    have hcolon := h.removesText ": " (by decide)
    have hvalue := removes_pretty h value (level + 1)
    have hrest := removes_prettyEntries h rest (level + 1)
    have hopen := h.removesText "\x7b" (by decide)
    have hclose := h.removesText "\x7d" (by decide)
    exact ((((((hopen.append (hline _)).append hkey).append hcolon).append hvalue).append
      hrest).append (hline _)).append hclose

/-- The same for the items behind the first one. -/
theorem removes_prettyItems {mark : List Char} (h : IsFence mark) (items : List Value)
    (level : Nat) : RemovesText mark (Outline.prettyItems level (Value.outlineItems items))
      (Outline.prettyItems level
        (Value.outlineItems (Value.respellItems (removeText mark) id items))) := by
  match items with
  | [] => exact h.removesText "" (by decide)
  | item :: rest =>
    have hcomma := h.removesText "," (by decide)
    have hline := h.removesText _ (not_mem_newLine level)
    have hitem := removes_pretty h item level
    have hrest := removes_prettyItems h rest level
    exact ((hcomma.append hline).append hitem).append hrest

/-- The same for the members behind the first one. -/
theorem removes_prettyEntries {mark : List Char} (h : IsFence mark)
    (members : List (String × Value)) (level : Nat) :
    RemovesText mark (Outline.prettyEntries level (Value.outlineMembers members))
      (Outline.prettyEntries level
        (Value.outlineMembers (Value.respellMembers (removeText mark) id members))) := by
  match members with
  | [] => exact h.removesText "" (by decide)
  | (key, value) :: rest =>
    have hcomma := h.removesText "," (by decide)
    have hline := h.removesText _ (not_mem_newLine level)
    have hkey := removes_writeString h key
    have hcolon := h.removesText ": " (by decide)
    have hvalue := removes_pretty h value level
    have hrest := removes_prettyEntries h rest level
    exact ((((hcomma.append hline).append hkey).append hcolon).append hvalue).append hrest

end

/-! ## All fences -/

/-- A character other than a backtick is kept. -/
theorem removeAll_cons_of_ne {c : Char} (h : c ≠ '\x60') (cs : List Char) :
    Text.removeAll fence (c :: cs) = c :: Text.removeAll fence cs := by
  refine Text.removeAll_cons fun hbegins => ?_
  rw [fence, List.cons_prefix_cons] at hbegins
  exact h hbegins.1.symm

/-- Where a fence does not begin, none begins after the removal of those behind. -/
theorem not_isPrefix_cons_removeAll {c : Char} {cs : List Char} (h : ¬fence <+: c :: cs) :
    ¬fence <+: c :: Text.removeAll fence cs := by
  intro hbegins
  obtain ⟨rfl, hsecond⟩ : '\x60' = c ∧ ['\x60', '\x60'] <+: Text.removeAll fence cs :=
    List.cons_prefix_cons.mp hbegins
  cases cs with
  | nil => simp [Text.removeAll, Text.removeFrom] at hsecond
  | cons d rest =>
    by_cases hd : d = '\x60'
    · subst hd
      cases rest with
      | nil =>
        have hone : Text.removeAll fence ['\x60'] = ['\x60'] := by decide
        simp [hone] at hsecond
      | cons e behind =>
        -- The third character is no backtick, so the second one stays and is followed by it.
        have he : e ≠ '\x60' := by
          rintro rfl
          exact h (by simp [fence])
        have hkept : ¬fence <+: '\x60' :: e :: behind := by
          simp [fence, he.symm]
        rw [Text.removeAll_cons hkept, removeAll_cons_of_ne he] at hsecond
        simp [he.symm] at hsecond
    · rw [removeAll_cons_of_ne hd] at hsecond
      simp [Ne.symm hd] at hsecond

/-- Nothing of the bare fence is left when it is removed. -/
theorem not_occursIn_removeAll (cs : List Char) :
    Text.occursIn fence (Text.removeAll fence cs) = false := by
  induction cs using Text.removal_induction isFence_fence.ne_nil with
  | nil => rfl
  | dropped cs ih => rwa [Text.removeAll_append isFence_fence.ne_nil]
  | kept c cs hkept ih =>
    rw [Text.removeAll_cons hkept, Text.occursIn, ih, Bool.or_false, ← Bool.not_eq_true,
      List.isPrefixOf_iff_prefix]
    exact not_isPrefix_cons_removeAll hkept

/-- Without a fence in it, a text is only trimmed. -/
theorem stripFencesChars_of_not_occursIn {cs : List Char} (h : Text.occursIn fence cs = false) :
    stripFencesChars cs = Text.trimChars cs := by
  have hjson : Text.occursIn jsonFence cs = false :=
    Text.occursIn_of_isPrefix ⟨['j', 's', 'o', 'n'], rfl⟩ h
  rw [stripFencesChars, Text.removeAll_of_not_occursIn hjson, Text.removeAll_of_not_occursIn h]

/-- Whether no fence occurs in a text. -/
def Unfenced (text : String) : Prop := Text.occursIn fence text.toList = false

/-- Whether a fence occurs can be told. -/
instance : DecidablePred Unfenced := fun text =>
  inferInstanceAs (Decidable (Text.occursIn fence text.toList = false))

/-- A value without the fences in its strings and keys. -/
def withoutFences (v : Value) : Value :=
  (v.respell (removeText jsonFence) id).respell (removeText fence) id

/-- No fence occurs in the texts of a value without fences. -/
theorem texts_withoutFences (v : Value) : (withoutFences v).Texts Unfenced := by
  have hall := Value.texts_of_forall (fun _ => trivial) (v.respell (removeText jsonFence) id)
  refine Value.Texts.respell (p := Unfenced) (q := fun _ => True) (fun text _ => ?_) id hall
  rw [Unfenced, removeText, String.toList_ofList]
  exact not_occursIn_removeAll text.toList

/-- A text in which no fence occurs is left as it is. -/
theorem removeText_of_unfenced {mark : List Char} (hmark : fence <+: mark) {text : String}
    (h : Unfenced text) : removeText mark text = text := by
  rw [removeText, Text.removeAll_of_not_occursIn (Text.occursIn_of_isPrefix hmark h),
    String.ofList_toList]

/-- Removing a fence leaves a value in whose texts none occurs as it is. -/
theorem respell_removeText {mark : List Char} (hmark : fence <+: mark) {v : Value}
    (h : v.Texts Unfenced) : v.respell (removeText mark) id = v := by
  refine Value.Texts.respell_eq_self (Value.Everywhere.imp (fun other hother => ?_) h)
  cases other with
  | string s => exact removeText_of_unfenced hmark hother
  | object members =>
    exact fun member hmember => removeText_of_unfenced hmark (hother member hmember)
  | _ => trivial

/-- A value in whose texts no fence occurs is left as it is. -/
theorem withoutFences_of_texts {v : Value} (h : v.Texts Unfenced) : withoutFences v = v := by
  have hjson : fence <+: jsonFence := ⟨['j', 's', 'o', 'n'], rfl⟩
  rw [withoutFences, respell_removeText hjson h, respell_removeText List.prefix_rfl h]

/-- The fences that are removed from the text of a value are those in its strings and keys. -/
theorem removeAll_pretty (v : Value) :
    Text.removeAll fence (Text.removeAll jsonFence v.pretty.toList) =
      (withoutFences v).pretty.toList := by
  have hjson := removes_pretty isFence_jsonFence v 0
  have hfence := removes_pretty isFence_fence (v.respell (removeText jsonFence) id) 0
  rw [Value.pretty, hjson.removeAll_eq, hfence.removeAll_eq]
  rfl

/-- In the text of a value a fence occurs only where one occurs in a string or a key. -/
theorem unfenced_pretty {v : Value} (h : v.Texts Unfenced) : Unfenced v.pretty := by
  have hremoved := removeAll_pretty v
  rw [withoutFences_of_texts h] at hremoved
  rw [Unfenced, ← hremoved]
  exact not_occursIn_removeAll _

/-- The text of an object stands between braces. -/
theorem exists_toList_pretty (member : String × Value) (members : List (String × Value)) :
    ∃ middle, (Value.object (member :: members)).pretty.toList = '\x7b' :: (middle ++ ['\x7d']) := by
  obtain ⟨key, value⟩ := member
  rw [Value.pretty, Value.outline, Value.outlineMembers, Outline.pretty]
  simp only [String.toList_append]
  exact ⟨_, rfl⟩

/-- What is left of the text of an object is the text of the object without fences. -/
theorem stripFencesChars_pretty (member : String × Value) (members : List (String × Value)) :
    stripFencesChars (Value.object (member :: members)).pretty.toList =
      (withoutFences (.object (member :: members))).pretty.toList := by
  obtain ⟨middle, hmiddle⟩ : ∃ middle,
      (withoutFences (.object (member :: members))).pretty.toList = '\x7b' :: (middle ++ ['\x7d']) :=
    exists_toList_pretty _ _
  rw [stripFencesChars, removeAll_pretty, hmiddle, Text.trimChars_of_ends (by decide) (by decide)]

/-- The text of an object is left as it is when no fence occurs in it. -/
theorem stripFencesChars_of_unfenced (member : String × Value) (members : List (String × Value))
    (h : Unfenced (Value.object (member :: members)).pretty) :
    stripFencesChars (Value.object (member :: members)).pretty.toList =
      (Value.object (member :: members)).pretty.toList := by
  obtain ⟨middle, hmiddle⟩ := exists_toList_pretty member members
  rw [stripFencesChars_of_not_occursIn h, hmiddle,
    Text.trimChars_of_ends (by decide) (by decide)]

end PageSketch.Reply
