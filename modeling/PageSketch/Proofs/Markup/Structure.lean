import PageSketch.Proofs.Markup.Reading

/-!
# Rendering loses no structure

A child is clean if its names and keys have nothing in them that could end a tag or a name, and its
texts nothing that could end a line or begin a tag. The values of its attributes may be anything
that stands on one line. The node of a clean child is read back from its text, so two of them have
the same text only if they are written of the same node.
-/

namespace PageSketch

open Markup

/-! ## Clean children -/

/-- Whether a text is not empty and has neither blanks nor some marks. -/
def FreeOf (marks : List Char) (text : String) : Prop :=
  text ≠ "" ∧ ∀ c ∈ text.toList, Text.isBlank c = false ∧ c ∉ marks

instance (marks : List Char) (text : String) : Decidable (FreeOf marks text) :=
  @instDecidableAnd _ _ _ (List.decidableBAll _ text.toList)

/-- A text that is free of marks has none of them. -/
theorem FreeOf.ne_of_mem {marks : List Char} {text : String} (h : FreeOf marks text) {mark : Char}
    (hmark : mark ∈ marks ∨ Text.isBlank mark = true) : ∀ c ∈ text.toList, c ≠ mark := by
  rintro c hc rfl
  obtain ⟨hblank, hmarks⟩ := h.2 c hc
  rcases hmark with hmark | hmark
  · exact hmarks hmark
  · exact Bool.false_ne_true (hblank.symm.trans hmark)

/-- A text that is free of marks has no line break. -/
theorem FreeOf.newline_not_mem {marks : List Char} {text : String} (h : FreeOf marks text) :
    '\n' ∉ text.toList :=
  fun hmem => h.ne_of_mem (.inr (by decide)) '\n' hmem rfl

/-- Whether names, keys and texts of a child cannot be taken for other parts of its text. -/
inductive Child.Clean : Child → Prop
  | component {c : Component} (hname : FreeOf ['<', '>', '/', '"'] c.name)
      (hkeys : ∀ prop ∈ c.props, FreeOf ['<', '>', '/', '=', '"'] prop.1)
      (htexts : ∀ prop ∈ c.props, ∀ text, prop.2 = .string text → '\n' ∉ text.toList)
      (hchildren : ∀ child ∈ c.children, child.Clean) : Clean (.component c)
  | text {text : String} (hbreak : '\n' ∉ text.toList) (hhead : text.toList.head? ≠ some '<') :
      Clean (.text text)
  | number (n : Json.Number) : Clean (.number n)
  | bool (b : Bool) : Clean (.bool b)

/-- A clean child has line breaks only inside the arrays and objects of its props. -/
theorem Child.Clean.unbroken {child : Child} (h : child.Clean) : child.Unbroken := by
  induction h with
  | component hname hkeys htexts _ ih =>
    refine .component hname.newline_not_mem (fun prop hprop => ?_) ih
    exact ⟨(hkeys prop hprop).newline_not_mem, htexts prop hprop⟩
  | text hbreak _ => exact .text hbreak
  | number n => exact .number n
  | bool b => exact .bool b

/-- What is written of a clean child can be read. -/
theorem Child.Clean.readable {child : Child} (h : child.Clean) : child.node.Readable := by
  induction h with
  | @component c hname hkeys htexts hchildren ih =>
    rw [Child.node, Component.node_eq]
    refine .element (fun ch hch => ⟨?_, ?_, ?_⟩) ?_ ?_
    · exact hname.ne_of_mem (.inr (by decide)) ch hch
    · exact hname.ne_of_mem (.inl (by decide)) ch hch
    · exact hname.ne_of_mem (.inl (by decide)) ch hch
    · refine passes_attributesText fun prop hprop ch hch => ⟨?_, ?_⟩
      · exact (hkeys prop hprop).ne_of_mem (.inl (by decide)) ch hch
      · exact (hkeys prop hprop).ne_of_mem (.inl (by decide)) ch hch
    · exact List.forall_mem_map.mpr ih
  | text hbreak hhead => rw [Child.node]; exact .leaf hhead
  | number n =>
    rw [Child.node]
    refine .leaf fun hhead => ?_
    obtain ⟨numeral, htext⟩ := n.exists_numeralText
    exact absurd (htext.isDigit_or_mem (List.mem_of_head? hhead)) (by decide)
  | bool b => rw [Child.node]; exact .leaf (by cases b <;> decide)

namespace Markup

/-! ## Texts and nodes -/

/-- The node of a clean child is read back from its text. -/
theorem readNode?_renderChild (depth : Nat) {child : Child} (h : child.Clean) :
    readNode? depth (renderChild depth child) = some child.node :=
  readNode?_of_readable h.readable h.unbroken.node (toList_renderChild depth child)

/-- Children with the same node have the same text. -/
theorem renderChild_eq_of_node_eq (depth : Nat) {child child' : Child}
    (h : child.node = child'.node) : renderChild depth child = renderChild depth child' := by
  have hended : (renderChild depth child).toList ++ ['\n'] =
      (renderChild depth child').toList ++ ['\n'] := by
    rw [toList_renderChild, toList_renderChild, h]
  exact String.toList_inj.mp (List.append_cancel_right hended)

/-- The text of a clean child at a depth is read as its node, and clean children have the same text
at a depth exactly if their nodes are the same: the names, attributes and leaves of the same tree. -/
theorem render_determines_node (depth : Nat) {child child' : Child} (h : child.Clean)
    (h' : child'.Clean) :
    readNode? depth (renderChild depth child) = some child.node ∧
      (renderChild depth child = renderChild depth child' ↔ child.node = child'.node) := by
  refine ⟨readNode?_renderChild depth h, fun htext => ?_, renderChild_eq_of_node_eq depth⟩
  have hread : some child.node = some child'.node :=
    calc some child.node
      _ = readNode? depth (renderChild depth child) := (readNode?_renderChild depth h).symm
      _ = readNode? depth (renderChild depth child') := by rw [htext]
      _ = some child'.node := readNode?_renderChild depth h'
  exact Option.some.inj hread

/-- A child whose attributes and leaves look like tags, with one more leaf. -/
def tagLike (leaf : Child) : Child :=
  .component ⟨"d-card", [("title", .string "a > \"b\""), ("rows", .array [.string "</d-card>\n"])],
    none, [.text "  </d-card>", .component (.named "d-row"), leaf]⟩

/-- It is clean if the leaf is. -/
theorem tagLike_clean {leaf : Child} (h : leaf.Clean) : (tagLike leaf).Clean := by
  have hname : FreeOf ['<', '>', '/', '"'] "d-card" := by decide
  refine .component hname ?_ ?_ ?_
  · refine List.forall_mem_cons.mpr ⟨?_, List.forall_mem_singleton.mpr ?_⟩
    · exact (by decide : FreeOf ['<', '>', '/', '=', '"'] "title")
    · exact (by decide : FreeOf ['<', '>', '/', '=', '"'] "rows")
  · refine List.forall_mem_cons.mpr ⟨?_, List.forall_mem_singleton.mpr nofun⟩
    rintro _ ⟨⟩
    decide
  · have hrow : (Child.component (.named "d-row")).Clean :=
      .component (by decide) nofun nofun nofun
    simpa [hrow, h] using Child.Clean.text (by decide) (by decide)

/-- It is read back from its text, which is the same whether the leaf is a number or its text. -/
theorem render_determines_node_tagLike :
    readNode? 1 (renderChild 1 (tagLike (.text "5"))) = some (tagLike (.text "5")).node ∧
      renderChild 1 (tagLike (.text "5")) = renderChild 1 (tagLike (.number (.ofInt64 5))) := by
  have htext : (Child.text "5").Clean := .text (by decide) (by decide)
  obtain ⟨hread, hsame⟩ := render_determines_node 1 (tagLike_clean htext)
    (tagLike_clean (.number (.ofInt64 5)))
  exact ⟨hread, hsame.mpr rfl⟩

end Markup

end PageSketch
