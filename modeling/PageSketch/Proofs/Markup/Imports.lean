import Mathlib.Data.List.Basic
import Mathlib.Data.List.Induction
import PageSketch.Markup.Source
import PageSketch.Proofs.Markup.Words
import PageSketch.Proofs.Sketch.Places

/-!
# Imports follow the template

Rendering and collecting names walk through the components of a sketch on their own. The template is
put together from parts, and the parts that are opening tags are those of all components in the order
of the tree. The names in use are the names of these tags without the empty ones, each where it comes
first; and behind its fixed lines the script has one line for exactly those of them that belong to the
library, each once and in the order of their first tags, which imports the identifier made of the words
of the name.
-/

namespace PageSketch

/-- The names of all components in the order of the tree. -/
def Sketch.names (s : Sketch) : List String := s.places.map fun entry => entry.2.name

namespace Markup

/-! ## The parts of a template -/

/-- A part of a template: the opening or the closing tag of a component, or a text between tags. -/
inductive Part where
  | opening (name : String) (props : Props)
  | closing (name : String)
  | raw (text : String)

/-- What is written for a part. -/
def Part.text : Part → String
  | opening name props => openTag name props
  | closing name => closeTag name
  | raw text => text

/-- The name that a part opens a tag with. -/
def Part.opened? : Part → Option String
  | opening name _ => some name
  | _ => none

/-- The text of parts one behind the other. -/
def partsText (parts : List Part) : String := String.join (parts.map Part.text)

/-- The names of the opening tags among parts. -/
def openedNames (parts : List Part) : List String := parts.filterMap Part.opened?

mutual

/-- The parts of a component at a depth. -/
def componentParts (depth : Nat) : Component → List Part
  | ⟨name, props, _, children⟩ =>
    [.raw (indent depth), .opening name props] ++ childrenParts (depth + 1) children ++
      [.raw (if children.isEmpty then "" else "\n" ++ indent depth), .closing name]

/-- The parts of a child at a depth. -/
def childParts (depth : Nat) : Child → List Part
  | .component c => componentParts depth c
  | .text s => [.raw (indent depth ++ s)]
  | .number n => [.raw (indent depth ++ n.text)]
  | .bool b => [.raw (indent depth ++ (if b then "true" else "false"))]

/-- The parts of children, each behind a line break. -/
def childrenParts (depth : Nat) : List Child → List Part
  | [] => []
  | child :: rest => .raw "\n" :: (childParts depth child ++ childrenParts depth rest)

end

/-- The parts of the template of a sketch. -/
def templateParts (sketch : Sketch) : List Part :=
  .raw ("<template>\n" ++ indent 1 ++ "<div class=\"generated-page " ++
      layoutClass sketch.header.layout ++ "\">") ::
    (childrenParts baseDepth (sketch.components.map .component) ++
      [.raw ("\n" ++ indent 1 ++ "</div>\n</template>")])

/-! ## What they are put together to -/

@[simp]
theorem partsText_nil : partsText [] = "" := by
  rw [partsText, List.map_nil, String.join_nil]

@[simp]
theorem partsText_cons (part : Part) (parts : List Part) :
    partsText (part :: parts) = part.text ++ partsText parts := by
  rw [partsText, List.map_cons, String.join_cons, partsText]

@[simp]
theorem partsText_append (parts parts' : List Part) :
    partsText (parts ++ parts') = partsText parts ++ partsText parts' := by
  rw [partsText, List.map_append, String.join_append, partsText, partsText]

mutual

/-- The parts of a component are what is rendered of it. -/
theorem partsText_componentParts (depth : Nat) (c : Component) :
    partsText (componentParts depth c) = renderComponent depth c := by
  match c with
  | ⟨name, props, span, []⟩ =>
    simp [componentParts, childrenParts, renderComponent, Part.text, String.append_assoc]
  | ⟨name, props, span, child :: rest⟩ =>
    have hrest := partsText_childrenParts (depth + 1) rest
    have hchild := partsText_childParts (depth + 1) child
    simp [componentParts, childrenParts, renderComponent, Part.text, hchild, hrest,
      String.append_assoc]

/-- The parts of a child are what is rendered of it. -/
theorem partsText_childParts (depth : Nat) (child : Child) :
    partsText (childParts depth child) = renderChild depth child := by
  match child with
  | .component c =>
    rw [childParts, renderChild]
    exact partsText_componentParts depth c
  | .text _ | .number _ | .bool _ => simp [childParts, renderChild, Part.text]

/-- The parts of children are what is rendered of them behind another child. -/
theorem partsText_childrenParts (depth : Nat) (children : List Child) :
    partsText (childrenParts depth children) = renderRest depth children := by
  match children with
  | [] => rw [childrenParts, renderRest, partsText_nil]
  | child :: rest =>
    rw [childrenParts, renderRest, partsText_cons, partsText_append, partsText_childParts,
      partsText_childrenParts, String.append_assoc]
    rfl

end

/-- Everything behind the first text stands behind a separator. -/
theorem intercalate_cons (separator first : String) (rest : List String) :
    separator.intercalate (first :: rest) = first ++ String.join (rest.map (separator ++ ·)) := by
  induction rest generalizing first with
  | nil => rw [List.map_nil, String.join_nil, String.append_empty]; rfl
  | cons next rest ih =>
    rw [String.intercalate_cons_cons, ih next, List.map_cons, String.join_cons, String.append_assoc,
      String.append_assoc]

/-- Components are rendered like children behind another child. -/
theorem renderRest_components (depth : Nat) (components : List Component) :
    renderRest depth (components.map .component) =
      String.join ((components.map (renderComponent depth)).map ("\n" ++ ·)) := by
  induction components with
  | nil => rfl
  | cons c rest ih =>
    rw [List.map_cons, List.map_cons, List.map_cons, renderRest, renderChild, ih, String.join_cons]

/-- Something is rendered of every component. -/
theorem renderComponent_ne_empty (depth : Nat) (c : Component) : renderComponent depth c ≠ "" := by
  have hmem : '<' ∈ (renderComponent depth c).toList := by
    match c with
    | ⟨name, props, span, []⟩ | ⟨name, props, span, child :: rest⟩ =>
      simp [renderComponent, closeTag]
  intro hempty
  rw [hempty] at hmem
  exact List.not_mem_nil hmem

/-- The body of a template behind a line break; without components there is neither. -/
theorem renderRest_eq_templateBody (components : List Component) :
    renderRest baseDepth (components.map .component) =
      String.join ((if (templateBody components).isEmpty then [] else [templateBody components]).map
        ("\n" ++ ·)) := by
  rw [renderRest_components]
  cases components with
  | nil => rfl
  | cons c rest =>
    have hbody : templateBody (c :: rest) = renderComponent baseDepth c ++
        String.join ((rest.map (renderComponent baseDepth)).map ("\n" ++ ·)) := by
      rw [templateBody, List.map_cons, intercalate_cons]
    -- The first component leaves a text, so the body is not left out.
    have hne : ¬(templateBody (c :: rest)).isEmpty = true := by
      rw [String.isEmpty_iff, hbody, String.append_eq_empty_iff]
      exact fun h => renderComponent_ne_empty baseDepth c h.1
    rw [if_neg hne, hbody]
    simp [String.append_assoc]

/-- The parts of a template are the template. -/
theorem partsText_templateParts (sketch : Sketch) :
    partsText (templateParts sketch) = templateBlock sketch := by
  have hbody := renderRest_eq_templateBody sketch.components
  rw [← partsText_childrenParts] at hbody
  -- The texts before and behind the body have a line break of their own.
  have hfirst : "<template>\n" = "<template>" ++ "\n" := rfl
  have hlast : "</div>\n</template>" = "</div>" ++ ("\n" ++ "</template>") := rfl
  rw [templateParts, partsText_cons, partsText_append, hbody, templateBlock, hfirst]
  simp [-String.reduceAppend, intercalate_cons, Part.text, String.append_assoc, hlast]

/-! ## The tags that they open -/

/-- An attribute has at least a sign between its name and its value. -/
theorem attributeText_ne_empty (key : String) (value : Json.Value) : attributeText key value ≠ "" := by
  intro h
  rw [attributeText, String.append_eq_empty_iff] at h
  exact absurd h.2 (by decide)

/-- Only without props there are no attributes. -/
theorem isEmpty_attributesText (props : Props) : (attributesText props).isEmpty = props.isEmpty := by
  cases props with
  | nil => rfl
  | cons prop rest =>
    rw [List.isEmpty_cons, ← Bool.not_eq_true, String.isEmpty_iff, attributesText, List.map_cons,
      intercalate_cons, String.append_eq_empty_iff]
    exact fun h => attributeText_ne_empty prop.1 prop.2 h.1

/-- An opening tag has the name of the component, and behind a space its attributes if it has props. -/
theorem openTag_eq (name : String) (props : Props) :
    openTag name props =
      "<" ++ name ++ (if props.isEmpty then "" else " " ++ attributesText props) ++ ">" := by
  rw [openTag, isEmpty_attributesText]
  split
  · rw [String.append_empty]
  · simp only [String.append_assoc]

@[simp]
theorem openedNames_nil : openedNames [] = [] := rfl

@[simp]
theorem openedNames_opening (name : String) (props : Props) (parts : List Part) :
    openedNames (.opening name props :: parts) = name :: openedNames parts := rfl

@[simp]
theorem openedNames_closing (name : String) (parts : List Part) :
    openedNames (.closing name :: parts) = openedNames parts := rfl

@[simp]
theorem openedNames_raw (text : String) (parts : List Part) :
    openedNames (.raw text :: parts) = openedNames parts := rfl

@[simp]
theorem openedNames_append (parts parts' : List Part) :
    openedNames (parts ++ parts') = openedNames parts ++ openedNames parts' :=
  List.filterMap_append

mutual

/-- The opening tags of a component are those of the components in it, in the order of the tree. -/
theorem openedNames_componentParts (depth : Nat) (c : Component) :
    openedNames (componentParts depth c) = c.places.map fun entry => entry.2.name := by
  match c with
  | ⟨name, props, span, children⟩ =>
    have hchildren := openedNames_childrenParts (depth + 1) 0 children
    simp [componentParts, Component.places, hchildren]

/-- The same of a child. -/
theorem openedNames_childParts (depth index : Nat) (child : Child) :
    openedNames (childParts depth child) =
      (child.placesAt index).map fun entry => entry.2.name := by
  match child with
  | .component c =>
    rw [childParts, Child.placesAt, List.map_map, openedNames_componentParts]
    rfl
  | .text _ | .number _ | .bool _ => simp [childParts, Child.placesAt]

/-- The same of children. -/
theorem openedNames_childrenParts (depth index : Nat) (children : List Child) :
    openedNames (childrenParts depth children) =
      (Child.places index children).map fun entry => entry.2.name := by
  match children with
  | [] => rw [childrenParts, Child.places]; rfl
  | child :: rest =>
    have hchild := openedNames_childParts depth index child
    have hrest := openedNames_childrenParts depth (index + 1) rest
    simp [childrenParts, Child.places, hchild, hrest]

end

/-- A template opens the tags of all components, in the order of the tree. -/
theorem openedNames_templateParts (sketch : Sketch) :
    openedNames (templateParts sketch) = sketch.names := by
  have hchildren := openedNames_childrenParts baseDepth 0 (sketch.components.map .component)
  simp [templateParts, hchildren, Sketch.names, Sketch.places]

/-! ## First occurrences -/

/-- One more element is kept if it is new. -/
theorem eraseDups_concat (xs : List String) (x : String) :
    (xs ++ [x]).eraseDups = if x ∈ xs then xs.eraseDups else xs.eraseDups ++ [x] := by
  rw [List.eraseDups_append, List.removeAll]
  by_cases hx : x ∈ xs <;> simp [hx, List.eraseDups_cons]

/-- No element is left twice. -/
theorem nodup_eraseDups (xs : List String) : xs.eraseDups.Nodup := by
  induction xs using List.reverseRecOn with
  | nil => exact .nil
  | append_singleton xs x ih =>
    rw [eraseDups_concat]
    split
    · exact ih
    · rename_i hx
      refine List.nodup_append.mpr ⟨ih, List.pairwise_singleton _ x, ?_⟩
      rintro a ha b hb rfl
      rw [List.mem_singleton] at hb
      exact hx (hb ▸ List.mem_eraseDups.mp ha)

/-- The elements that are left are in the order in which they come first. -/
theorem pairwise_eraseDups (xs : List String) :
    xs.eraseDups.Pairwise fun a b => xs.idxOf a < xs.idxOf b := by
  induction xs using List.reverseRecOn with
  | nil => exact .nil
  | append_singleton xs x ih =>
    have hold : xs.eraseDups.Pairwise fun a b => (xs ++ [x]).idxOf a < (xs ++ [x]).idxOf b := by
      refine ih.imp_of_mem fun ha hb hlt => ?_
      rwa [List.idxOf_append_of_mem (List.mem_eraseDups.mp ha),
        List.idxOf_append_of_mem (List.mem_eraseDups.mp hb)]
    rw [eraseDups_concat]
    split
    · exact hold
    · rename_i hx
      refine List.pairwise_append.mpr ⟨hold, List.pairwise_singleton _ x, ?_⟩
      intro a ha b hb
      have hmem : a ∈ xs := List.mem_eraseDups.mp ha
      -- What is new comes first behind all the others.
      rw [List.mem_singleton.mp hb, List.idxOf_append_of_mem hmem,
        List.idxOf_append_of_notMem hx]
      have hlt := List.idxOf_lt_length_iff.mpr hmem
      omega

/-- It is the same to leave out elements before or after. -/
theorem eraseDups_filter (p : String → Bool) (xs : List String) :
    (xs.filter p).eraseDups = xs.eraseDups.filter p := by
  induction xs using List.reverseRecOn with
  | nil => rfl
  | append_singleton xs x ih =>
    rw [eraseDups_concat, List.filter_append]
    by_cases hp : p x = true
    · rw [List.filter_cons_of_pos hp, List.filter_nil, eraseDups_concat, ih]
      by_cases hx : x ∈ xs <;> simp [hx, hp]
    · rw [List.filter_cons_of_neg hp, List.filter_nil, List.append_nil, ih]
      by_cases hx : x ∈ xs <;> simp [hx, hp]

/-! ## Names in use -/

/-- A name is kept if it is not empty and not there yet. -/
theorem collect_name (xs : List String) (name : String) :
    (if name.isEmpty || xs.eraseDups.contains name then xs.eraseDups
      else xs.eraseDups ++ [name]) = (xs ++ [name].filter fun name => name ≠ "").eraseDups := by
  by_cases hempty : name = ""
  · simp [hempty]
  · rw [List.filter_cons_of_pos (by simpa using hempty), List.filter_nil, eraseDups_concat]
    have hcontains : (name.isEmpty || xs.eraseDups.contains name) = true ↔ name ∈ xs := by
      simp [hempty]
    simp only [hcontains]

-- The names seen so far are those of some list, each where it comes first. Stated for any such list,
-- the induction carries over from a component to what stands behind it.
mutual

/-- The names of a component are collected as if all of them were appended, and those that are empty
or there already were left out. -/
theorem collectComponent_eraseDups (xs : List String) (c : Component) :
    collectComponent xs.eraseDups c =
      (xs ++ (c.places.map fun entry => entry.2.name).filter fun name => name ≠ "").eraseDups := by
  match c with
  | ⟨name, props, span, children⟩ =>
    rw [collectComponent, collect_name, collectChildren_eraseDups _ 0 children, Component.places,
      List.map_cons, List.append_assoc, ← List.filter_append]
    rfl

/-- The same of children. -/
theorem collectChildren_eraseDups (xs : List String) (index : Nat) (children : List Child) :
    collectChildren xs.eraseDups children =
      (xs ++ ((Child.places index children).map fun entry => entry.2.name).filter
        fun name => name ≠ "").eraseDups := by
  match children with
  | [] => simp [collectChildren, Child.places]
  | child :: rest =>
    rw [collectChildren, collectChild_eraseDups xs index child,
      collectChildren_eraseDups _ (index + 1) rest, Child.places, List.map_append,
      List.filter_append, List.append_assoc]

/-- The same of a child. -/
theorem collectChild_eraseDups (xs : List String) (index : Nat) (child : Child) :
    collectChild xs.eraseDups child =
      (xs ++ ((child.placesAt index).map fun entry => entry.2.name).filter
        fun name => name ≠ "").eraseDups := by
  match child with
  | .component c =>
    rw [collectChild, Child.placesAt, List.map_map, collectComponent_eraseDups]
    rfl
  | .text _ | .number _ | .bool _ => simp [collectChild, Child.placesAt]

end

/-- Components are collected like children. -/
theorem collectChildren_components (seen : List String) (components : List Component) :
    collectChildren seen (components.map .component) = components.foldl collectComponent seen := by
  induction components generalizing seen with
  | nil => rfl
  | cons c rest ih => rw [List.map_cons, collectChildren, collectChild, ih, List.foldl_cons]

/-- The names in use are all names of the sketch but the empty one, each where it comes first. -/
theorem usedNames_eq (sketch : Sketch) :
    usedNames sketch.components = (sketch.names.filter fun name => name ≠ "").eraseDups := by
  have hcollect := collectChildren_eraseDups [] 0 (sketch.components.map .component)
  rw [List.eraseDups_nil, collectChildren_components, List.nil_append] at hcollect
  exact hcollect

/-- The names in use are those of the components, but for the empty one. -/
theorem mem_usedNames_iff {sketch : Sketch} {name : String} :
    name ∈ usedNames sketch.components ↔ name ∈ sketch.names ∧ name ≠ "" := by
  rw [usedNames_eq, List.mem_eraseDups, List.mem_filter, decide_eq_true_iff]

/-! ## Imports -/

/-- Whether a component belongs to the library is told by the beginning of its name. -/
theorem isFromLibrary_iff (options : SourceOptions) (name : String) :
    isFromLibrary options name = true ↔ options.libraryPrefix.toList <+: name.toList := by
  rw [isFromLibrary, List.isPrefixOf_iff_prefix]

/-- The names that a script imports. -/
def importedNames (options : SourceOptions) (sketch : Sketch) : List String :=
  (usedNames sketch.components).filter (isFromLibrary options)

/-- They are names of the sketch, each where it comes first. -/
theorem importedNames_eq (options : SourceOptions) (sketch : Sketch) :
    importedNames options sketch =
      sketch.names.eraseDups.filter fun name =>
        isFromLibrary options name && decide (name ≠ "") := by
  rw [importedNames, usedNames_eq, eraseDups_filter, List.filter_filter]

/-- No name is imported twice. -/
theorem nodup_importedNames (options : SourceOptions) (sketch : Sketch) :
    (importedNames options sketch).Nodup := by
  rw [importedNames_eq]
  exact (nodup_eraseDups sketch.names).filter _

/-- The names that are imported are those from the library. -/
theorem mem_importedNames_iff {options : SourceOptions} {sketch : Sketch} {name : String} :
    name ∈ importedNames options sketch ↔
      name ∈ sketch.names ∧ name ≠ "" ∧ options.libraryPrefix.toList <+: name.toList := by
  rw [importedNames, List.mem_filter, mem_usedNames_iff, isFromLibrary_iff, and_assoc]

/-- They are imported in the order in which they come first. -/
theorem pairwise_importedNames (options : SourceOptions) (sketch : Sketch) :
    (importedNames options sketch).Pairwise fun a b =>
      sketch.names.idxOf a < sketch.names.idxOf b := by
  rw [importedNames_eq]
  exact (pairwise_eraseDups sketch.names).filter _

/-- An import names the identifier and the package, as a comment unless it is asked for as a
declaration. -/
theorem importLine_eq (options : SourceOptions) (name : String) :
    importLine options name =
      (if options.imports = .advisory then "// " else "") ++ "import \x7b " ++ identifier name ++
        " \x7d from '" ++ options.package ++ "';" := by
  rw [importLine]
  cases options.imports <;> rfl

/-- Imports follow the template. A template is put together from parts: opening tags, which are a name
and the attributes of the props, closing tags, which are a name, and text between them. The opening
tags are those of all components in the order of the tree, and the names in use are their names without
the empty ones, each where it comes first. Behind three fixed lines the script has one line for each of
the names in use that begins with the prefix of the library, in the order of their first tags, and no
other line up to the one that closes it; the line imports the identifier of the name from the package,
and the identifier is made of the words between the hyphens of the name, each with its first character
raised. -/
theorem imports_follow_template (options : SourceOptions) (sketch : Sketch) :
    (blocks options sketch).template = partsText (templateParts sketch) ∧
      (∀ name props, (Part.opening name props).text =
        "<" ++ name ++ (if props.isEmpty then "" else " " ++ attributesText props) ++ ">") ∧
      (∀ name, (Part.closing name).text = "</" ++ name ++ ">") ∧
      openedNames (templateParts sketch) = sketch.names ∧
      usedNames sketch.components = (sketch.names.filter fun name => name ≠ "").eraseDups ∧
      (∀ name, (identifier name).toList =
        ((name.toList.splitOn '-').filter (· ≠ [])).flatMap capitalized) ∧
      ∃ imported : List String,
        (blocks options sketch).script =
            "\n".intercalate
              (["<script setup lang=\"ts\">", "import \x7b ref \x7d from 'vue';",
                  "// 请确保已安装 " ++ options.package] ++
                imported.map (fun name =>
                  (if options.imports = .advisory then "// " else "") ++ "import \x7b " ++
                    identifier name ++ " \x7d from '" ++ options.package ++ "';") ++
                ["</script>"]) ∧
          imported.Nodup ∧
          (∀ name, name ∈ imported ↔
            name ≠ "" ∧ options.libraryPrefix.toList <+: name.toList ∧
              name ∈ openedNames (templateParts sketch)) ∧
          imported.Pairwise fun a b =>
            (openedNames (templateParts sketch)).idxOf a <
              (openedNames (templateParts sketch)).idxOf b := by
  have hopened := openedNames_templateParts sketch
  refine ⟨(partsText_templateParts sketch).symm, openTag_eq, fun name => rfl, hopened,
    usedNames_eq sketch, toList_identifier, importedNames options sketch, ?_,
    nodup_importedNames options sketch, ?_, ?_⟩
  · rw [blocks, scriptBlock, List.map_congr_left fun name _ => importLine_eq options name]
    rfl
  · intro name
    rw [mem_importedNames_iff, hopened, and_comm, and_assoc]
  · rw [hopened]
    exact pairwise_importedNames options sketch

/-- A form with an item, a text and the form's name once more in it, behind a button from elsewhere and
a component without a name: two imports, of the form before the item. -/
example :
    let form := (Component.named "d-form").withChild (.component (.named "d-form-item"))
    let sketch : Sketch := ⟨.empty, [.named "el-button", .named "",
      (form.withChild (.text "<d-row>")).withChild (.component (.named "d-form"))]⟩
    openedNames (templateParts sketch) = ["el-button", "", "d-form", "d-form-item", "d-form"] ∧
      (blocks .standard sketch).script =
        "<script setup lang=\"ts\">\nimport \x7b ref \x7d from 'vue';\n// 请确保已安装 vue-devui\n" ++
          "// import \x7b DForm \x7d from 'vue-devui';\n" ++
          "// import \x7b DFormItem \x7d from 'vue-devui';\n</script>" := by
  decide +kernel

end Markup

end PageSketch
