import PageSketch.Markup.Element
import PageSketch.Text.Uppercase

/-!
# Component sources

The source of a page has three blocks: a script with the imports of the library components in use,
a template with the elements, and a fixed style. Imports are comments unless they are asked for as
declarations, and a component is imported under its identifier: the hyphens of its name are dropped, and
the first character and every character behind a hyphen become uppercase.
-/

namespace PageSketch

/-- Whether imports are comments or declarations. -/
inductive ImportMode where
  | advisory
  | live
deriving DecidableEq, Repr

/-- What can be chosen about a source: which component names belong to the library, where the
library is imported from, and how. -/
structure SourceOptions where
  libraryPrefix : String
  package : String
  imports : ImportMode
deriving DecidableEq, Repr

/-- The options that hold when nothing is said. -/
def SourceOptions.standard : SourceOptions := ⟨"d-", "vue-devui", .advisory⟩

/-- The blocks of a source. -/
structure Blocks where
  script : String
  template : String
  style : String
deriving DecidableEq, Repr

/-- The blocks in one text, with an empty line between them. -/
def Blocks.source (blocks : Blocks) : String :=
  blocks.script ++ "\n\n" ++ blocks.template ++ "\n\n" ++ blocks.style

namespace Markup

/-! ## Names in use -/

mutual

/-- Adds the names in a component, in the order of their first tags. -/
def collectComponent (seen : List String) : Component → List String
  | ⟨name, _, _, children⟩ =>
    collectChildren (if name.isEmpty || seen.contains name then seen else seen ++ [name]) children

/-- Adds the names in the children. -/
def collectChildren (seen : List String) : List Child → List String
  | [] => seen
  | child :: rest => collectChildren (collectChild seen child) rest

/-- Adds the names in a child. -/
def collectChild (seen : List String) : Child → List String
  | .component c => collectComponent seen c
  | .text _ => seen
  | .number _ => seen
  | .bool _ => seen

end

/-- The names in use, each once, in the order of their first tags. -/
def usedNames (components : List Component) : List String :=
  components.foldl collectComponent []

/-! ## Identifiers -/

/-- The identifier of the characters of a name; `raise` says whether the next character that is
no hyphen becomes uppercase. -/
def joinWords (raise : Bool) : List Char → List Char
  | [] => []
  | c :: rest =>
    if c = '-' then joinWords true rest
    else if raise then Text.uppercase c ++ joinWords false rest
    else c :: joinWords false rest

/-- The identifier of a name. -/
def identifier (name : String) : String := String.ofList (joinWords true name.toList)

/-! ## Blocks -/

/-- The line that imports a component. -/
def importLine (options : SourceOptions) (name : String) : String :=
  (match options.imports with
    | .advisory => "// "
    | .live => "") ++
    "import \x7b " ++ identifier name ++ " \x7d from '" ++ options.package ++ "';"

/-- Whether a component belongs to the library. -/
def isFromLibrary (options : SourceOptions) (name : String) : Bool :=
  options.libraryPrefix.toList.isPrefixOf name.toList

/-- The lines of the script before the imports. -/
def scriptHead (options : SourceOptions) : List String :=
  ["<script setup lang=\"ts\">", "import \x7b ref \x7d from 'vue';",
    "// 请确保已安装 " ++ options.package]

/-- The script block for the names in use. -/
def scriptBlock (options : SourceOptions) (used : List String) : String :=
  "\n".intercalate (scriptHead options ++
    (used.filter (isFromLibrary options)).map (importLine options) ++ ["</script>"])

/-- The style class of a layout. -/
def layoutClass : Layout → String
  | .flow => "flow-layout"
  | .grid => "grid-layout"

/-- The depth of the top-level components. -/
def baseDepth : Nat := 2

/-- The elements of the top-level components. -/
def templateBody (components : List Component) : String :=
  "\n".intercalate (components.map (renderComponent baseDepth))

/-- The template block. An empty body has no line. -/
def templateBlock (sketch : Sketch) : String :=
  let body := templateBody sketch.components
  "\n".intercalate
    (["<template>",
      indent 1 ++ "<div class=\"generated-page " ++ layoutClass sketch.header.layout ++ "\">"] ++
      (if body.isEmpty then [] else [body]) ++ [indent 1 ++ "</div>", "</template>"])

/-- The style block. -/
def styleBlock : String :=
  "\n".intercalate
    ["<style scoped>",
     ".generated-page \x7b padding: 20px; \x7d",
     ".grid-layout \x7b display: flex; flex-wrap: wrap; gap: 16px; \x7d",
     ".flow-layout \x7b display: flex; flex-direction: column; gap: 16px; \x7d",
     "</style>"]

/-- The blocks of a sketch. -/
def blocks (options : SourceOptions) (sketch : Sketch) : Blocks where
  script := scriptBlock options (usedNames sketch.components)
  template := templateBlock sketch
  style := styleBlock

/-- The source of a sketch; without a sketch it is empty. -/
def source (options : SourceOptions) : Option Sketch → String
  | some sketch => (blocks options sketch).source
  | none => ""

/-- What is noted in the log when a sketch has been compiled. -/
def compiledNote (sketch : Sketch) : String :=
  "Generated component '" ++ sketch.header.title ++ "' (" ++
    toString sketch.components.length ++ " top-level nodes, " ++
    toString (usedNames sketch.components).length ++ " distinct components)"

end Markup

end PageSketch
