import PageSketch.Proofs.Markup.Lines

/-!
# Depth is indentation

Rendering a child deeper puts the spaces of the additional levels in front of every line of its text
and changes nothing else, if no line break stands in it that is not a break between its lines. So a
text has the same lines at every depth, and inside an element stand the lines that its children have
at the depth of the element, each with one more level in front.
-/

namespace PageSketch.Markup

/-! ## Lines of texts -/

/-- The lines of a text. -/
def textLines (text : String) : List String := (Text.pieces '\n' text.toList).map String.ofList

/-- A text with the spaces of some levels in front of every line. -/
def indentLines (levels : Nat) (text : String) : String :=
  "\n".intercalate ((textLines text).map (indent levels ++ ·))

/-- A text consists of its lines, with line breaks between them. -/
theorem intercalate_textLines (text : String) : "\n".intercalate (textLines text) = text := by
  have hlines : (textLines text).map String.toList = Text.pieces '\n' text.toList := by
    simp [textLines, Function.comp_def]
  rw [← String.toList_inj, String.toList_intercalate, hlines]
  exact Text.intercalate_pieces '\n' text.toList

/-! ## Lines of nodes -/

/-- A line that stands deeper has more spaces in front. -/
theorem lineAt_add (depth levels : Nat) (text : String) :
    lineAt (depth + levels) text = (indent levels).toList ++ lineAt depth text := by
  have hspaces : 2 * (depth + levels) = 2 * levels + 2 * depth := by omega
  simp only [lineAt, indent, String.toList_append, String.toList_ofList, hspaces,
    ← List.replicate_append_replicate, List.append_assoc]

mutual

/-- The lines of a node that stands deeper have more spaces in front. -/
theorem Node.lines_add (depth levels : Nat) (node : Node) :
    node.lines (depth + levels) = (node.lines depth).map ((indent levels).toList ++ ·) := by
  match node with
  | .leaf text => simp only [Node.lines, lineAt_add, List.map_cons, List.map_nil]
  | .element name attributes [] => simp only [Node.lines, lineAt_add, List.map_cons, List.map_nil]
  | .element name attributes (child :: rest) =>
    have hchild := Node.lines_add (depth + 1) levels child
    have hrest := Node.listLines_add (depth + 1) levels rest
    rw [Nat.add_right_comm] at hchild hrest
    simp only [Node.lines, lineAt_add, hchild, hrest, List.map_cons, List.map_append, List.map_nil]

/-- The same for nodes one below the other. -/
theorem Node.listLines_add (depth levels : Nat) (nodes : List Node) :
    Node.listLines (depth + levels) nodes =
      (Node.listLines depth nodes).map ((indent levels).toList ++ ·) := by
  match nodes with
  | [] => rfl
  | node :: rest =>
    rw [Node.listLines, Node.listLines, Node.lines_add depth levels node,
      Node.listLines_add depth levels rest, List.map_append]

end

/-! ## Lines of children -/

/-- The lines of the text of a child are those of its node. -/
theorem textLines_renderChild {child : Child} (h : child.Unbroken) (depth : Nat) :
    textLines (renderChild depth child) = (child.node.lines depth).map String.ofList := by
  rw [textLines, lines_renderChild h]

/-- The lines of a child that stands deeper have more spaces in front. -/
theorem textLines_renderChild_add {child : Child} (h : child.Unbroken) (depth levels : Nat) :
    textLines (renderChild (depth + levels) child) =
      (textLines (renderChild depth child)).map (indent levels ++ ·) := by
  rw [textLines_renderChild h, textLines_renderChild h, Node.lines_add, List.map_map, List.map_map]
  refine List.map_congr_left fun line _ => ?_
  rw [Function.comp_apply, Function.comp_apply, String.ofList_append, String.ofList_toList]

/-- Below the opening tag of a component and above its closing tag stand the lines of its children,
one level deeper than the component. -/
theorem textLines_renderChild_component {c : Component} (h : (Child.component c).Unbroken)
    (hne : c.children ≠ []) (depth : Nat) :
    textLines (renderChild depth (.component c)) =
      (indent depth ++ openTag c.name c.props) ::
        ((c.children.flatMap fun child => textLines (renderChild (depth + 1) child)) ++
          [indent depth ++ closeTag c.name]) := by
  have hinner : (Node.listLines (depth + 1) (c.children.map Child.node)).map String.ofList =
      c.children.flatMap fun child => textLines (renderChild (depth + 1) child) := by
    cases h with
    | component hname hprops hchildren =>
      rw [Node.listLines_eq_flatMap, List.flatMap_map, List.map_flatMap]
      refine List.flatMap_congr fun child hchild => ?_
      rw [textLines_renderChild (hchildren child hchild)]
  rw [textLines_renderChild h, Child.node, Component.node_eq,
    Node.lines_element (List.map_eq_nil_iff.not.mpr hne), List.map_cons, List.map_append, hinner,
    List.map_singleton, lineAt, lineAt, String.ofList_toList, String.ofList_toList]
  rfl

/-! ## Rendering deeper -/

/-- A child without stray line breaks that is rendered deeper is the same text with the spaces of the
additional levels in front of every line; so it has as many lines at every depth. Inside a component
stand the lines that its children have at the depth of the component, with one more level in front. -/
theorem depth_shifts_lines {child : Child} (h : child.Unbroken) (depth levels : Nat) :
    renderChild (depth + levels) child = indentLines levels (renderChild depth child) ∧
    (textLines (renderChild (depth + levels) child)).length =
      (textLines (renderChild depth child)).length ∧
    ∀ c, child = .component c → c.children ≠ [] →
      textLines (renderChild depth child) =
        (indent depth ++ openTag c.name c.props) ::
          ((c.children.flatMap fun inner =>
            (textLines (renderChild depth inner)).map (indent 1 ++ ·)) ++
              [indent depth ++ closeTag c.name]) := by
  have hlines := textLines_renderChild_add h depth levels
  refine ⟨?_, by rw [hlines, List.length_map], ?_⟩
  · rw [indentLines, ← hlines, intercalate_textLines]
  · rintro c rfl hne
    rw [textLines_renderChild_component h hne]
    cases h with
    | component hname hprops hchildren =>
      congr 2
      exact List.flatMap_congr fun inner hinner =>
        textLines_renderChild_add (hchildren inner hinner) depth 1

/-- A component with a line break inside an array, around a text and an empty component. -/
def breakInArray : Component :=
  ⟨"d-table", [("rows", .array [.string "a\nb"])], none,
    [.text "total", .component (.named "d-row")]⟩

/-- It is shifted as a whole, and its children stand one level deeper than it. -/
theorem depth_shifts_lines_breakInArray :
    renderChild (1 + 2) (.component breakInArray) =
      indentLines 2 (renderChild 1 (.component breakInArray)) ∧
    textLines (renderChild 1 (.component breakInArray)) =
      ["  <d-table :rows=\"['a\\nb']\">", "    total", "    <d-row></d-row>", "  </d-table>"] := by
  have hunbroken : (Child.component breakInArray).Unbroken := by
    refine .component (by decide) ?_ ?_
    · exact List.forall_mem_singleton.mpr ⟨by decide, nofun⟩
    · have hrow : (Child.component (.named "d-row")).Unbroken :=
        .component (by decide) nofun nofun
      simpa [breakInArray, hrow] using Child.Unbroken.text (by decide)
  obtain ⟨hshift, -, hinner⟩ := depth_shifts_lines hunbroken 1 2
  exact ⟨hshift, (hinner _ rfl (by simp [breakInArray])).trans (by decide)⟩

end PageSketch.Markup
