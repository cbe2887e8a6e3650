import PageSketch.Proofs.Reply.Fences

/-!
# Stripping replies

What is left of a reply when its fences and the blanks at its ends are taken off: no fence occurs in
it, neither end is a blank, and stripping it again leaves it as it is. Of a body in a block of code
the body is left, so that a reply in a block is taken as the reply without the block.
-/

namespace PageSketch.Reply

/-! ## What is left -/

/-- The characters of a stripped text. -/
theorem toList_stripFences (text : String) :
    (stripFences text).toList = stripFencesChars text.toList := by
  rw [stripFences, String.toList_ofList]

/-- No fence occurs in what is left of a text. -/
theorem unfenced_stripFences (text : String) : Unfenced (stripFences text) := by
  have hremoved := not_occursIn_removeAll (Text.removeAll jsonFence text.toList)
  rw [Unfenced, toList_stripFences, stripFencesChars, ← Bool.not_eq_true, Text.occursIn_iff]
  rw [← Bool.not_eq_true, Text.occursIn_iff] at hremoved
  -- Trimming leaves a piece, and a fence in it would be one before.
  exact fun hfence => hremoved (hfence.trans (Text.trimChars_isInfix _))

/-- Neither end of what is left of a text is a blank. -/
theorem trimmed_stripFences (text : String) : Text.Trimmed (stripFences text).toList := by
  rw [toList_stripFences]
  exact Text.trimmed_trimChars _

/-- A text in which no fence occurs is only trimmed. -/
theorem stripFences_of_unfenced {text : String} (h : Unfenced text) :
    stripFences text = Text.trim text := by
  rw [stripFences, stripFencesChars_of_not_occursIn h, Text.trim]

/-- Stripping twice is stripping once. -/
theorem stripFences_stripFences (text : String) :
    stripFences (stripFences text) = stripFences text := by
  rw [stripFences_of_unfenced (unfenced_stripFences text), Text.trim,
    (trimmed_stripFences text).trimChars_eq, String.ofList_toList]

/-- Replies of which the same is left are taken as the same. -/
theorem sketch_eq_of_stripFences_eq {text text' : String}
    (h : stripFences text = stripFences text') : sketch text = sketch text' := by
  rw [sketch, sketch, h]

/-! ## Blocks of code -/

/-- A body in a block of code: behind an opening fence and before a bare one, with blanks wherever
they may stand. A bare fence that opens a block has at least one blank behind it, since a body that
begins with `json` would be taken for a part of the fence. -/
inductive Block (body : String) : String → Prop
  | json {before inner outer behind : String} (hbefore : Text.isBlankText before = true)
      (hinner : Text.isBlankText inner = true) (houter : Text.isBlankText outer = true)
      (hbehind : Text.isBlankText behind = true) :
      Block body (before ++ "```json" ++ inner ++ body ++ outer ++ "```" ++ behind)
  | bare {before inner outer behind : String} (hbefore : Text.isBlankText before = true)
      (hinner : Text.isBlankText inner = true) (houter : Text.isBlankText outer = true)
      (hbehind : Text.isBlankText behind = true) (hne : inner ≠ "") :
      Block body (before ++ "```" ++ inner ++ body ++ outer ++ "```" ++ behind)

/-- A bare fence does not begin an opening one unless a `j` is behind it, or a further backtick. -/
theorem removeAll_jsonFence_fence {rest : List Char}
    (h : ∀ c ∈ rest.head?, c ≠ '\x60' ∧ c ≠ 'j') :
    Text.removeAll jsonFence (fence ++ rest) = fence ++ Text.removeAll jsonFence rest := by
  cases rest with
  | nil => decide
  | cons c rest =>
    obtain ⟨hbacktick, hj⟩ := h c rfl
    simp only [fence, List.cons_append, List.nil_append]
    rw [Text.removeAll_cons, Text.removeAll_cons, Text.removeAll_cons]
    all_goals simp [jsonFence, hbacktick.symm, hj.symm]

/-- Blanks have no backtick. -/
theorem backtick_not_mem_of_isBlankText {text : String} (h : Text.isBlankText text = true) :
    '\x60' ∉ text.toList := fun hmem =>
  Text.ne_of_isBlank (Text.isBlankText_iff.mp h _ hmem) (by decide) (by decide) rfl

/-- The first character of a blank text is neither a backtick nor a `j`. -/
theorem head_of_isBlankText {text : String} (h : Text.isBlankText text = true) :
    ∀ c ∈ text.toList.head?, c ≠ '\x60' ∧ c ≠ 'j' := by
  intro c hc
  have hblank := Text.isBlankText_iff.mp h c (List.mem_of_head? hc)
  exact ⟨Text.ne_of_isBlank hblank (by decide) (by decide),
    Text.ne_of_isBlank hblank (by decide) (by decide)⟩

section

variable {front middle back : List Char}

/-- A bare fence that closes a block is no part of an opening one. -/
theorem removeAll_jsonFence_closing (hmiddle : '\x60' ∉ middle) (hback : '\x60' ∉ back)
    (hhead : ∀ c ∈ back.head?, c ≠ '\x60' ∧ c ≠ 'j') :
    Text.removeAll jsonFence (middle ++ (fence ++ back)) = middle ++ (fence ++ back) := by
  rw [isFence_jsonFence.removes hmiddle, removeAll_jsonFence_fence hhead,
    (isFence_jsonFence.removes hback).removeAll_eq]

/-- The bare fence that closes a block is removed. -/
theorem removeAll_fence_closing (hmiddle : '\x60' ∉ middle) (hback : '\x60' ∉ back) :
    Text.removeAll fence (middle ++ (fence ++ back)) = middle ++ back := by
  rw [isFence_fence.removes hmiddle, Text.removes_self isFence_fence.ne_nil, List.nil_append,
    (isFence_fence.removes hback).removeAll_eq]

/-- Without its fences, the characters around them are left of a block that is opened as JSON. -/
theorem removeAll_jsonBlock (hfront : '\x60' ∉ front) (hmiddle : '\x60' ∉ middle)
    (hback : '\x60' ∉ back) (hhead : ∀ c ∈ back.head?, c ≠ '\x60' ∧ c ≠ 'j') :
    Text.removeAll fence (Text.removeAll jsonFence
      (front ++ (jsonFence ++ (middle ++ (fence ++ back))))) = front ++ (middle ++ back) := by
  rw [isFence_jsonFence.removes hfront, Text.removes_self isFence_jsonFence.ne_nil,
    List.nil_append, removeAll_jsonFence_closing hmiddle hback hhead,
    isFence_fence.removes hfront, removeAll_fence_closing hmiddle hback]

/-- Without its fences, the characters around them are left of a block that is opened bare. -/
theorem removeAll_bareBlock (hfront : '\x60' ∉ front) (hmiddle : '\x60' ∉ middle)
    (hback : '\x60' ∉ back) (hhead : ∀ c ∈ back.head?, c ≠ '\x60' ∧ c ≠ 'j')
    (hopen : ∀ c ∈ (middle ++ (fence ++ back)).head?, c ≠ '\x60' ∧ c ≠ 'j') :
    Text.removeAll fence (Text.removeAll jsonFence
      (front ++ (fence ++ (middle ++ (fence ++ back))))) = front ++ (middle ++ back) := by
  rw [isFence_jsonFence.removes hfront, removeAll_jsonFence_fence hopen,
    removeAll_jsonFence_closing hmiddle hback hhead, isFence_fence.removes hfront,
    Text.removes_self isFence_fence.ne_nil, List.nil_append, removeAll_fence_closing hmiddle hback]

end

section

variable {before inner outer behind body : String}

/-- The body of a block has no backtick with the blanks around it. -/
theorem backtick_not_mem_middle (hinner : Text.isBlankText inner = true)
    (houter : Text.isBlankText outer = true) (hbody : '\x60' ∉ body.toList) :
    '\x60' ∉ inner.toList ++ (body.toList ++ outer.toList) := by
  simp [backtick_not_mem_of_isBlankText hinner, backtick_not_mem_of_isBlankText houter, hbody]

/-- The blanks within and around a block do not count. -/
theorem trimChars_block (hbefore : Text.isBlankText before = true)
    (hinner : Text.isBlankText inner = true) (houter : Text.isBlankText outer = true)
    (hbehind : Text.isBlankText behind = true) :
    Text.trimChars (before.toList ++
      (inner.toList ++ (body.toList ++ outer.toList) ++ behind.toList)) =
        Text.trimChars body.toList := by
  rw [Text.trimChars_append_of_blank (Text.isBlankText_iff.mp hbefore)
    (Text.isBlankText_iff.mp hbehind)]
  exact Text.trimChars_append_of_blank (Text.isBlankText_iff.mp hinner)
    (Text.isBlankText_iff.mp houter) body.toList

/-- The body, trimmed, is what is left of a block. -/
theorem Block.stripFences_eq {text : String} (h : Block body text) (hbody : '\x60' ∉ body.toList) :
    stripFences text = Text.trim body := by
  rw [stripFences, stripFencesChars, Text.trim]
  cases h with
  | @json before inner outer behind hbefore hinner houter hbehind =>
    have htext : (before ++ "```json" ++ inner ++ body ++ outer ++ "```" ++ behind).toList =
        before.toList ++ (jsonFence ++ (inner.toList ++ (body.toList ++ outer.toList) ++
          (fence ++ behind.toList))) := by
      simp [jsonFence, fence]
    rw [htext, removeAll_jsonBlock (backtick_not_mem_of_isBlankText hbefore)
      (backtick_not_mem_middle hinner houter hbody) (backtick_not_mem_of_isBlankText hbehind)
      (head_of_isBlankText hbehind), trimChars_block hbefore hinner houter hbehind]
  | @bare before inner outer behind hbefore hinner houter hbehind hne =>
    have htext : (before ++ "```" ++ inner ++ body ++ outer ++ "```" ++ behind).toList =
        before.toList ++ (fence ++ (inner.toList ++ (body.toList ++ outer.toList) ++
          (fence ++ behind.toList))) := by
      simp [fence]
    -- A blank stands behind the opening fence, so nothing else does.
    have hhead : ∀ c ∈ (inner.toList ++ (body.toList ++ outer.toList) ++
        (fence ++ behind.toList)).head?, c ≠ '\x60' ∧ c ≠ 'j' := by
      obtain ⟨c, rest, hcons⟩ := List.exists_cons_of_ne_nil
        (fun hnil => hne (String.toList_eq_nil_iff.mp hnil))
      have hinnerHead := head_of_isBlankText hinner
      rw [hcons] at hinnerHead ⊢
      exact hinnerHead
    rw [htext, removeAll_bareBlock (backtick_not_mem_of_isBlankText hbefore)
      (backtick_not_mem_middle hinner houter hbody) (backtick_not_mem_of_isBlankText hbehind)
      (head_of_isBlankText hbehind) hhead, trimChars_block hbefore hinner houter hbehind]

/-- A reply in a block is taken as the reply without the block. -/
theorem Block.sketch_eq {text : String} (h : Block body text) (hbody : '\x60' ∉ body.toList) :
    sketch text = sketch body := by
  refine sketch_eq_of_stripFences_eq ?_
  have hunfenced : Unfenced body := by
    rw [Unfenced, ← Bool.not_eq_true, Text.occursIn_iff]
    exact fun hfence => hbody (hfence.subset (by decide))
  rw [h.stripFences_eq hbody, stripFences_of_unfenced hunfenced]

end

/-! ## Stripping -/

/-- What is left of a text has no fence in it and no blank at its ends, and stripping it changes
nothing; a text without fences is only trimmed. Of a body without backticks in a block of code
exactly the trimmed body is left, and the block is taken as the same sketch as the body, or refused
as the body is. -/
theorem stripping_unwraps (text : String) :
    Unfenced (stripFences text) ∧ Text.Trimmed (stripFences text).toList ∧
    stripFences (stripFences text) = stripFences text ∧
    (Unfenced text → stripFences text = Text.trim text) ∧
    ∀ body, '\x60' ∉ body.toList → Block body text →
      stripFences text = Text.trim body ∧ sketch text = sketch body :=
  ⟨unfenced_stripFences text, trimmed_stripFences text, stripFences_stripFences text,
    stripFences_of_unfenced,
    fun _ hbody hblock => ⟨hblock.stripFences_eq hbody, hblock.sketch_eq hbody⟩⟩

/-- A text without fences is trimmed, an object in a block of JSON is taken as the object, and `json`
is left of a bare block with a blank before it. -/
theorem stripping_unwraps_bodies :
    stripFences "\u3000[] " = Text.trim "\u3000[] " ∧
    sketch ("\n" ++ "```json" ++ "" ++ "\x7b\x7d" ++ "\n" ++ "```" ++ " ") = sketch "\x7b\x7d" ∧
    stripFences ("" ++ "```" ++ "\n" ++ "json" ++ "" ++ "```" ++ "") = Text.trim "json" := by
  refine ⟨(stripping_unwraps _).2.2.2.1 (by decide), ?_, ?_⟩
  · exact ((stripping_unwraps _).2.2.2.2 _ (by decide)
      (.json (by decide) (by decide) (by decide) (by decide))).2
  · exact ((stripping_unwraps _).2.2.2.2 _ (by decide)
      (.bare (by decide) (by decide) (by decide) (by decide) (by decide))).1

end PageSketch.Reply
