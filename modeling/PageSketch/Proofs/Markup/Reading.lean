import Mathlib.Data.List.Basic
import PageSketch.Proofs.Markup.Lines
import PageSketch.Proofs.Markup.Tags

/-!
# Reading nodes back

A reader for the lines of a node. It keeps the elements that are open, and it takes a line that is
indented like a child of the innermost one as that child: a line that begins with `<` is an element,
which stays open unless its closing tag follows at once, and any other line is a leaf. A line that is
indented less has to be the closing tag of the innermost element, with its name and at its
indentation. Reading the lines of a node puts the node where it belongs.
-/

namespace PageSketch.Markup

/-! ## The reader -/

/-- An element whose closing tag has not come yet, with its children so far, the latest first. -/
structure OpenElement where
  name : String
  attributes : String
  children : List Node

/-- How far a text is read: the open elements, the innermost first, and the node that is complete
outside of them. -/
structure Reading where
  opened : List OpenElement
  node? : Option Node

namespace Reading

/-- Puts a node into the innermost open element. Without open elements it is the node that is read,
and a second one is refused. -/
def add (node : Node) : Reading → Option Reading
  | ⟨[], none⟩ => some ⟨[], some node⟩
  | ⟨[], some _⟩ => none
  | ⟨element :: outer, node?⟩ =>
    some ⟨{ element with children := node :: element.children } :: outer, node?⟩

/-- The name in a tag. -/
def tagName (tag : List Char) : String := String.ofList (tag.takeWhile (· ≠ ' '))

/-- The attributes in a tag. -/
def tagAttributes (tag : List Char) : String :=
  String.ofList ((tag.dropWhile (· ≠ ' ')).drop 1)

/-- Reads an element from what stands behind its first `<`. -/
def element (content : List Char) (r : Reading) : Option Reading :=
  (splitTag false content).bind fun (tag, behind) =>
    if behind = [] then
      some { r with opened := ⟨tagName tag, tagAttributes tag, []⟩ :: r.opened }
    else if behind = (closeTag (tagName tag)).toList then
      r.add (.element (tagName tag) (tagAttributes tag) [])
    else none

/-- Reads a line that is indented like a child of the innermost open element, without its
indentation. -/
def child (r : Reading) : List Char → Option Reading
  | '<' :: content => r.element content
  | text => r.add (.leaf (String.ofList text))

/-- Reads a line that is indented less: the closing tag of the innermost open element at its
indentation. -/
def close (depth : Nat) (line : List Char) : Reading → Option Reading
  | ⟨[], _⟩ => none
  | ⟨e :: outer, node?⟩ =>
    if line = lineAt (depth + outer.length) (closeTag e.name) then
      add (.element e.name e.attributes e.children.reverse) ⟨outer, node?⟩
    else none

/-- Reads a line of a node that is written at a depth. -/
def line (depth : Nat) (r : Reading) (line : List Char) : Option Reading :=
  match (indent (depth + r.opened.length)).toList.isPrefixOf? line with
  | some content => r.child content
  | none => r.close depth line

/-- The node that is read once no element is open any more. -/
def complete? : Reading → Option Node
  | ⟨[], node?⟩ => node?
  | ⟨_ :: _, _⟩ => none

end Reading

/-- Reads the node that a text is written of at a depth. -/
def readNode? (depth : Nat) (text : String) : Option Node :=
  ((Text.pieces '\n' text.toList).foldlM (Reading.line depth) ⟨[], none⟩).bind Reading.complete?

/-! ## Nodes that can be read -/

/-- Whether a node can be read from its lines: names have no spaces and tags do not end within a
name or within attributes, and leaves do not begin like elements. -/
inductive Node.Readable : Node → Prop
  | element {name attributes : String} {children : List Node}
      (hname : ∀ c ∈ name.toList, c ≠ ' ' ∧ c ≠ '>' ∧ c ≠ '"')
      (hattributes : Passes false false attributes.toList)
      (hchildren : ∀ node ∈ children, node.Readable) : Readable (.element name attributes children)
  | leaf {text : String} (htext : text.toList.head? ≠ some '<') : Readable (.leaf text)

namespace Reading

variable {depth : Nat} {r : Reading}

/-! ## One line -/

/-- Reading one line alone. -/
theorem foldlM_singleton (text : List Char) :
    [text].foldlM (line depth) r = r.line depth text := by
  rw [List.foldlM_cons]
  exact bind_pure _

/-- A level of indentation is two spaces. -/
theorem toList_indent (depth : Nat) : (indent depth).toList = List.replicate (2 * depth) ' ' :=
  String.toList_ofList

/-- A line at the indentation of a child is read as a child. -/
theorem line_lineAt (text : String) :
    r.line depth (lineAt (depth + r.opened.length) text) = r.child text.toList := by
  have hprefix := List.isPrefixOf?_eq_some_iff_append_eq.mpr
    (String.toList_append (s := indent (depth + r.opened.length)) (t := text)).symm
  rw [line, lineAt, hprefix]

/-- The closing tag of the innermost open element completes it. -/
theorem line_closeTag (e : OpenElement) (outer : List OpenElement) (node? : Option Node) :
    line depth ⟨e :: outer, node?⟩ (lineAt (depth + outer.length) (closeTag e.name)) =
      add (.element e.name e.attributes e.children.reverse) ⟨outer, node?⟩ := by
  -- The line is one level short of the indentation of a child.
  have hprefix : (indent (depth + (e :: outer).length)).toList.isPrefixOf?
      (lineAt (depth + outer.length) (closeTag e.name)) = none := by
    refine Option.eq_none_iff_forall_ne_some.mpr fun content hcontent => ?_
    have heq := List.isPrefixOf?_eq_some_iff_append_eq.mp hcontent
    have hlevels : 2 * (depth + (e :: outer).length) = 2 * (depth + outer.length) + 2 := by
      rw [List.length_cons]
      omega
    rw [lineAt, String.toList_append, toList_indent, toList_indent, hlevels, List.replicate_add,
      List.append_assoc, List.append_cancel_left_eq] at heq
    simp [closeTag] at heq
  rw [line, hprefix]
  exact if_pos rfl

/-! ## Tags -/

/-- What stands between `<` and `>` in an opening tag. -/
def tagBody (name attributes : String) : List Char :=
  name.toList ++ if attributes.isEmpty then [] else ' ' :: attributes.toList

/-- An opening tag is its body between `<` and `>`. -/
theorem toList_tagText (name attributes : String) :
    (tagText name attributes).toList = '<' :: (tagBody name attributes ++ ['>']) := by
  unfold tagText tagBody
  split <;> simp

section

variable {name attributes : String}

/-- A tag does not end within the body of a readable one. -/
theorem passes_tagBody (hname : ∀ c ∈ name.toList, c ≠ ' ' ∧ c ≠ '>' ∧ c ≠ '"')
    (hattributes : Passes false false attributes.toList) :
    Passes false false (tagBody name attributes) := by
  refine (passes_of_plain fun c hc => (hname c hc).2).append ?_
  split
  · exact passes_nil false
  · exact .cons (.inl (by decide)) hattributes

/-- The name of a readable tag is what stands before the first space. -/
theorem tagName_tagBody (hname : ∀ c ∈ name.toList, c ≠ ' ') :
    tagName (tagBody name attributes) = name := by
  rw [tagName, tagBody, List.takeWhile_append_of_pos fun c hc => decide_eq_true (hname c hc)]
  split
  · rw [List.takeWhile_nil, List.append_nil, String.ofList_toList]
  · rw [List.takeWhile_cons_of_neg (by decide), List.append_nil, String.ofList_toList]

/-- The attributes are what stands behind it. -/
theorem tagAttributes_tagBody (hname : ∀ c ∈ name.toList, c ≠ ' ') :
    tagAttributes (tagBody name attributes) = attributes := by
  rw [tagAttributes, tagBody,
    List.dropWhile_append_of_pos fun c hc => decide_eq_true (hname c hc)]
  split
  · rename_i hempty
    rw [String.isEmpty_iff.mp hempty]
    rfl
  · rw [List.dropWhile_cons_of_neg (by decide)]
    exact String.ofList_toList

/-- A readable tag opens an element, unless its closing tag stands behind it. -/
theorem child_tagText (hname : ∀ c ∈ name.toList, c ≠ ' ' ∧ c ≠ '>' ∧ c ≠ '"')
    (hattributes : Passes false false attributes.toList) (behind : List Char) :
    r.child ((tagText name attributes).toList ++ behind) =
      if behind = [] then some { r with opened := ⟨name, attributes, []⟩ :: r.opened }
      else if behind = (closeTag name).toList then r.add (.element name attributes [])
      else none := by
  have hspace : ∀ c ∈ name.toList, c ≠ ' ' := fun c hc => (hname c hc).1
  have hend : splitTag false ('>' :: behind) = some ([], behind) := rfl
  have hsplit : splitTag false (tagBody name attributes ++ '>' :: behind) =
      some (tagBody name attributes, behind) := by
    simp [passes_tagBody hname hattributes ('>' :: behind), hend]
  rw [toList_tagText, List.cons_append, List.append_assoc, List.singleton_append, child, element]
  simp only [hsplit, Option.bind_some, tagName_tagBody hspace, tagAttributes_tagBody hspace]

end

/-! ## Whole nodes -/

/-- Reading the lines of nodes that stand in an open element puts them into it one after another. -/
theorem foldlM_listLines {nodes : List Node}
    (h : ∀ node ∈ nodes, ∀ r : Reading,
      (node.lines (depth + r.opened.length)).foldlM (line depth) r = r.add node)
    (e : OpenElement) (outer : List OpenElement) (node? : Option Node) :
    (Node.listLines (depth + (outer.length + 1)) nodes).foldlM (line depth) ⟨e :: outer, node?⟩ =
      some ⟨{ e with children := nodes.reverse ++ e.children } :: outer, node?⟩ := by
  induction nodes generalizing e with
  | nil => rw [Node.listLines, List.foldlM_nil]; rfl
  | cons node rest ih =>
    obtain ⟨hnode, hrest⟩ := List.forall_mem_cons.mp h
    have hadd : (node.lines (depth + (outer.length + 1))).foldlM (line depth) ⟨e :: outer, node?⟩ =
        some ⟨{ e with children := node :: e.children } :: outer, node?⟩ :=
      hnode ⟨e :: outer, node?⟩
    rw [Node.listLines, List.foldlM_append, hadd, Option.bind_eq_bind, Option.bind_some]
    simpa using ih hrest { e with children := node :: e.children }

end Reading

/-- Reading the lines of a readable node puts the node where it belongs. -/
theorem Node.Readable.foldlM_lines {node : Node} (h : node.Readable) (depth : Nat) (r : Reading) :
    (node.lines (depth + r.opened.length)).foldlM (Reading.line depth) r = r.add node := by
  induction h generalizing r with
  | @element name attributes children hname hattributes hchildren ih =>
    by_cases hnil : children = []
    · rw [hnil, lines_element_nil, Reading.foldlM_singleton, Reading.line_lineAt,
        String.toList_append, Reading.child_tagText hname hattributes,
        if_neg (by simp [closeTag]), if_pos rfl]
    · have hopen : r.child (tagText name attributes).toList =
          some ⟨⟨name, attributes, []⟩ :: r.opened, r.node?⟩ := by
        simpa using Reading.child_tagText (r := r) hname hattributes []
      rw [lines_element hnil, List.foldlM_cons, Reading.line_lineAt, hopen, Option.bind_eq_bind,
        Option.bind_some, List.foldlM_append, Nat.add_assoc,
        Reading.foldlM_listLines ih ⟨name, attributes, []⟩ r.opened r.node?, Option.bind_eq_bind,
        Option.bind_some, Reading.foldlM_singleton, Reading.line_closeTag]
      simp
  | @leaf text htext =>
    have hchild : r.child text.toList = r.add (.leaf text) := by
      unfold Reading.child
      split
      · rename_i heq
        exact absurd (congrArg List.head? heq) htext
      · rw [String.ofList_toList]
    rw [lines, Reading.foldlM_singleton, Reading.line_lineAt, hchild]

/-- A text that consists of the lines of a readable node is read as the node. -/
theorem readNode?_of_readable {depth : Nat} {text : String} {node : Node} (hnode : node.Readable)
    (hbreaks : node.Unbroken) (htext : text.toList ++ ['\n'] = Text.ended (node.lines depth)) :
    readNode? depth text = some node := by
  have hread : (node.lines depth).foldlM (Reading.line depth) ⟨[], none⟩ = some ⟨[], some node⟩ :=
    hnode.foldlM_lines depth ⟨[], none⟩
  rw [readNode?, Text.pieces_of_ended htext hbreaks.newline_not_mem, hread]
  rfl

end PageSketch.Markup
