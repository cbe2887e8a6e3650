import PageSketch.Markup.Element
import PageSketch.Proofs.Markup.Breaks
import PageSketch.Proofs.Text.Pieces

/-!
# The lines of rendered children

Rendering writes of a child the names and the attributes of its elements and the texts of its
leaves. `Child.node` is a child reduced to these, and the text of a child at a depth consists of the
lines of its node at that depth: an element without children is one line, and one with children has
a line for each of its tags and the lines of the children one level deeper between them.
-/

namespace PageSketch

namespace Markup

/-- What is written of a child: an element with the text of its attributes, or the text of a leaf. -/
inductive Node where
  | element (name attributes : String) (children : List Node)
  | leaf (text : String)

end Markup

open Markup

/-! ## Nodes of children -/

mutual

/-- What is written of a component. -/
def Component.node : Component → Node
  | ⟨name, props, _, children⟩ => .element name (attributesText props) (Child.nodes children)

/-- What is written of a child. -/
def Child.node : Child → Node
  | .component c => c.node
  | .text text => .leaf text
  | .number n => .leaf n.text
  | .bool b => .leaf (if b then "true" else "false")

/-- What is written of children. -/
def Child.nodes : List Child → List Node
  | [] => []
  | child :: rest => child.node :: Child.nodes rest

end

/-- The nodes of children are the nodes of each of them. -/
theorem Child.nodes_eq_map (children : List Child) : Child.nodes children = children.map node := by
  induction children with
  | nil => rw [Child.nodes, List.map_nil]
  | cons child rest ih => rw [Child.nodes, List.map_cons, ih]

/-- What is written of a component are its name, its attributes and its children. -/
theorem Component.node_eq (c : Component) :
    c.node = .element c.name (attributesText c.props) (c.children.map Child.node) := by
  obtain ⟨name, props, span, children⟩ := c
  rw [Component.node, Child.nodes_eq_map]

namespace Markup

/-! ## Lines -/

/-- The opening tag with a name and the text of its attributes. -/
def tagText (name attributes : String) : String :=
  if attributes.isEmpty then "<" ++ name ++ ">" else "<" ++ name ++ " " ++ attributes ++ ">"

/-- A line at a depth. -/
def lineAt (depth : Nat) (text : String) : List Char := (indent depth ++ text).toList

mutual

/-- The lines of a node at a depth. -/
def Node.lines (depth : Nat) : Node → List (List Char)
  | .element name attributes [] => [lineAt depth (tagText name attributes ++ closeTag name)]
  | .element name attributes (child :: rest) =>
    lineAt depth (tagText name attributes) ::
      (child.lines (depth + 1) ++ Node.listLines (depth + 1) rest ++
        [lineAt depth (closeTag name)])
  | .leaf text => [lineAt depth text]

/-- The lines of nodes one below the other. -/
def Node.listLines (depth : Nat) : List Node → List (List Char)
  | [] => []
  | node :: rest => node.lines depth ++ Node.listLines depth rest

end

/-- The lines of an element without children. -/
theorem Node.lines_element_nil (depth : Nat) (name attributes : String) :
    (Node.element name attributes []).lines depth =
      [lineAt depth (tagText name attributes ++ closeTag name)] := by
  rw [Node.lines]

/-- The lines of an element with children. -/
theorem Node.lines_element {children : List Node} (h : children ≠ []) (depth : Nat)
    (name attributes : String) :
    (Node.element name attributes children).lines depth =
      lineAt depth (tagText name attributes) ::
        (Node.listLines (depth + 1) children ++ [lineAt depth (closeTag name)]) := by
  obtain ⟨child, rest, rfl⟩ := List.exists_cons_of_ne_nil h
  rw [Node.lines, Node.listLines]

/-! ## Line breaks -/

/-- Whether no name, no attributes and no leaf of a node have a line break. -/
inductive Node.Unbroken : Node → Prop
  | element {name attributes : String} {children : List Node} (hname : '\n' ∉ name.toList)
      (hattributes : '\n' ∉ attributes.toList) (hchildren : ∀ node ∈ children, node.Unbroken) :
      Unbroken (.element name attributes children)
  | leaf {text : String} (htext : '\n' ∉ text.toList) : Unbroken (.leaf text)

/-- A line has a line break only if its text has one. -/
theorem newline_not_mem_lineAt {text : String} (h : '\n' ∉ text.toList) (depth : Nat) :
    '\n' ∉ lineAt depth text := by
  simp [lineAt, indent, h]

/-- An opening tag has a line break only if its name or its attributes have one. -/
theorem newline_not_mem_tagText {name attributes : String} (hname : '\n' ∉ name.toList)
    (hattributes : '\n' ∉ attributes.toList) : '\n' ∉ (tagText name attributes).toList := by
  unfold tagText
  split <;> simp [hname, hattributes]

/-- A closing tag has a line break only if its name has one. -/
theorem newline_not_mem_closeTag {name : String} (hname : '\n' ∉ name.toList) :
    '\n' ∉ (closeTag name).toList := by
  simp [closeTag, hname]

/-- The lines of nodes one below the other are those of each of them. -/
theorem Node.listLines_eq_flatMap (depth : Nat) (nodes : List Node) :
    Node.listLines depth nodes = nodes.flatMap (·.lines depth) := by
  induction nodes with
  | nil => rfl
  | cons node rest ih => rw [Node.listLines, ih, List.flatMap_cons]

/-- The lines of such a node are lines: none has a line break. -/
theorem Node.Unbroken.newline_not_mem {node : Node} (h : node.Unbroken) {depth : Nat} :
    ∀ line ∈ node.lines depth, '\n' ∉ line := by
  induction h generalizing depth with
  | @element name attributes children hname hattributes hchildren ih =>
    have hopen := newline_not_mem_tagText hname hattributes
    have hclose := newline_not_mem_closeTag hname
    by_cases hnil : children = []
    · rw [hnil, Node.lines_element_nil]
      refine List.forall_mem_singleton.mpr (newline_not_mem_lineAt ?_ depth)
      simp [hopen, hclose]
    · rw [Node.lines_element hnil]
      refine List.forall_mem_cons.mpr ⟨newline_not_mem_lineAt hopen depth,
        List.forall_mem_append.mpr ⟨fun line hline => ?_, ?_⟩⟩
      · rw [Node.listLines_eq_flatMap] at hline
        obtain ⟨node, hnode, hmem⟩ := List.mem_flatMap.mp hline
        exact ih node hnode line hmem
      · exact List.forall_mem_singleton.mpr (newline_not_mem_lineAt hclose depth)
  | leaf htext =>
    rw [Node.lines]
    exact List.forall_mem_singleton.mpr (newline_not_mem_lineAt htext depth)

end Markup

/-- Whether no name, no key of a prop and no text of a child has a line break, neither a text that is a
child nor one that is a prop itself. Inside arrays and objects there may be some. -/
inductive Child.Unbroken : Child → Prop
  | component {c : Component} (hname : '\n' ∉ c.name.toList)
      (hprops : ∀ prop ∈ c.props, KeepsLine prop.1 prop.2)
      (hchildren : ∀ child ∈ c.children, child.Unbroken) : Unbroken (.component c)
  | text {text : String} (htext : '\n' ∉ text.toList) : Unbroken (.text text)
  | number (n : Json.Number) : Unbroken (.number n)
  | bool (b : Bool) : Unbroken (.bool b)

/-- Nothing that is written of such a child has a line break. -/
theorem Child.Unbroken.node {child : Child} (h : child.Unbroken) : child.node.Unbroken := by
  induction h with
  | @component c hname hprops hchildren ih =>
    rw [Child.node, Component.node_eq]
    exact .element hname (newline_not_mem_attributesText hprops) (List.forall_mem_map.mpr ih)
  | text htext => rw [Child.node]; exact .leaf htext
  | number n => rw [Child.node]; exact .leaf (break_not_mem_numberText (.inl rfl) n)
  | bool b => rw [Child.node]; exact .leaf (by cases b <;> decide)

namespace Markup

/-! ## Texts -/

mutual

/-- The text of a component consists of the lines of its node. -/
theorem toList_renderComponent (depth : Nat) (c : Component) :
    (renderComponent depth c).toList ++ ['\n'] = Text.ended (c.node.lines depth) := by
  match c with
  | ⟨name, props, span, []⟩ =>
    rw [renderComponent, Component.node, Child.nodes, Node.lines, Text.ended_cons, lineAt,
      openTag, tagText, String.append_assoc]
    rfl
  | ⟨name, props, span, child :: rest⟩ =>
    have hinner : (renderChild (depth + 1) child).toList ++
        ((renderRest (depth + 1) rest).toList ++ ['\n']) =
          Text.ended (child.node.lines (depth + 1)) ++
            Text.ended (Node.listLines (depth + 1) (Child.nodes rest)) := by
      rw [toList_renderRest (depth + 1) rest, ← toList_renderChild (depth + 1) child,
        List.append_assoc, List.singleton_append]
    rw [renderComponent, Component.node, Child.nodes, Node.lines, Text.ended_cons,
      Text.ended_append, Text.ended_append, ← hinner, Text.ended_cons, openTag]
    simp only [lineAt, tagText, String.toList_append, List.append_assoc]
    rfl

/-- The text of a child consists of the lines of its node. -/
theorem toList_renderChild (depth : Nat) (child : Child) :
    (renderChild depth child).toList ++ ['\n'] = Text.ended (child.node.lines depth) := by
  match child with
  | .component c =>
    rw [renderChild, Child.node]
    exact toList_renderComponent depth c
  | .text _ | .number _ | .bool _ =>
    rw [renderChild, Child.node, Node.lines, Text.ended_cons, lineAt]
    rfl

/-- What stands behind the first child consists of line breaks and the lines of the other nodes. -/
theorem toList_renderRest (depth : Nat) (rest : List Child) :
    (renderRest depth rest).toList ++ ['\n'] =
      '\n' :: Text.ended (Node.listLines depth (Child.nodes rest)) := by
  match rest with
  | [] =>
    rw [renderRest, Child.nodes, Node.listLines]
    rfl
  | child :: rest =>
    rw [renderRest, Child.nodes, Node.listLines, Text.ended_append,
      ← toList_renderChild depth child, List.append_assoc, List.singleton_append,
      ← toList_renderRest depth rest]
    simp

end

/-- The lines of the text of such a child are those of its node. -/
theorem lines_renderChild {child : Child} (h : child.Unbroken) (depth : Nat) :
    Text.pieces '\n' (renderChild depth child).toList = child.node.lines depth :=
  Text.pieces_of_ended (toList_renderChild depth child) h.node.newline_not_mem

end Markup

end PageSketch
