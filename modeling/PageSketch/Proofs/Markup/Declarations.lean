import PageSketch.Proofs.Check.Violations
import PageSketch.Proofs.Markup.Script

/-!
# Imports as declarations

If checking tells nothing about a sketch, all of its names are in the vocabulary, and so are those that
its script imports. Their identifiers are different words of letters, so that imports written as
declarations are different lines that declare different identifiers, and every opening tag of the
template with a name from the library has its identifier declared by exactly one of them.
-/

namespace PageSketch

/-- If checking tells nothing, every name is in the vocabulary. -/
theorem Sketch.name_mem_vocabulary {s : Sketch} (h : s.violations = []) {name : String}
    (hname : name ∈ s.names) : name ∈ vocabulary := by
  obtain ⟨⟨place, c⟩, hentry, rfl⟩ := List.mem_map.mp hname
  have hc : s.componentAt? place = some c := mem_places_iff.mp hentry
  have hblank : Text.trim c.name ≠ "" := by
    intro hblank
    have hmem := (emptyName_mem_violations_iff hc).mpr hblank
    rw [h] at hmem
    exact List.not_mem_nil hmem
  by_contra hunknown
  have hmem := (unknownName_mem_violations_iff hc).mpr ⟨rfl, hblank, hunknown⟩
  rw [h] at hmem
  exact List.not_mem_nil hmem

namespace Markup

open Text (LineEnds)

/-! ## One declaration -/

/-- The declaration of an identifier that is imported from a package. -/
def declaration (package identifier : String) : String :=
  "import \x7b " ++ identifier ++ " \x7d from '" ++ package ++ "';"

/-- Its characters. -/
theorem toList_declaration (package identifier : String) :
    (declaration package identifier).toList =
      "import \x7b ".toList ++ (identifier.toList ++ (importEnd package).toList) := by
  simp [declaration, importEnd]

/-- An import that is no comment is the declaration of the identifier. -/
theorem importLine_of_live {options : SourceOptions} (hlive : options.imports = .live)
    (name : String) : importLine options name = declaration options.package (identifier name) := by
  have hmode : options.imports ≠ .advisory := by
    rw [hlive]
    decide
  rw [importLine_eq, if_neg hmode, declaration, String.empty_append]

/-- Declarations of different identifiers are different. -/
theorem declaration_injective (package : String) : Function.Injective (declaration package) := by
  intro a b heq
  have hlist := congrArg String.toList heq
  rw [toList_declaration, toList_declaration] at hlist
  exact String.toList_inj.mp (List.append_cancel_right (List.append_cancel_left hlist))

/-- The declaration of a word of letters is within a line if the package is. -/
theorem within_declaration {ends : LineEnds} {package identifier : String}
    (hpackage : ends.Within package.toList) (hletters : ∀ c ∈ identifier.toList, c.isAlpha = true) :
    ends.Within (declaration package identifier).toList := by
  have hidentifier : ends.Within identifier.toList := by
    intro c hc
    rw [← Bool.not_eq_true]
    intro hend
    have hletter : (!c.isAlpha) = true :=
      LineEnds.of_isEnd (p := fun c => !c.isAlpha) (by decide) hend
    rw [hletters c hc] at hletter
    exact nomatch hletter
  rw [toList_declaration]
  exact (LineEnds.within_of_all (by decide)).append
    (hidentifier.append (within_importEnd hpackage))

/-! ## All declarations -/

/-- Declarations that import names of the vocabulary are within a line each, and are the lines of the
script between those that come first and the one that comes last. -/
theorem lines_script_of_live {ends : LineEnds} {options : SourceOptions} {sketch : Sketch}
    (hlive : options.imports = .live) (hpackage : ends.Within options.package.toList)
    (hknown : ∀ name ∈ importedNames options sketch, name ∈ vocabulary) :
    ends.lines (blocks options sketch).script.toList =
      (scriptHead options).map String.toList ++
        (((importedNames options sketch).map identifier).map (declaration options.package)).map
          String.toList ++ ["</script>".toList] := by
  have himports : (importedNames options sketch).map (importLine options) =
      ((importedNames options sketch).map identifier).map (declaration options.package) := by
    rw [List.map_map]
    exact List.map_congr_left fun name _ => importLine_of_live hlive name
  have hwithin : ∀ line ∈ ((importedNames options sketch).map identifier).map
      (declaration options.package), ends.Within line.toList := by
    intro line hline
    obtain ⟨id, hid, rfl⟩ := List.mem_map.mp hline
    obtain ⟨name, hname, rfl⟩ := List.mem_map.mp hid
    exact within_declaration hpackage (identifier_of_mem_vocabulary (hknown name hname)).2.1
  calc ends.lines (blocks options sketch).script.toList
    _ = (scriptHead options).map String.toList ++
          (((importedNames options sketch).map (importLine options)).flatMap fun line =>
            ends.lines line.toList) ++ ["</script>".toList] := by
      rw [List.flatMap_map]
      exact lines_scriptBlock hpackage _
    _ = (scriptHead options).map String.toList ++
          (((importedNames options sketch).map identifier).map (declaration options.package)).map
            String.toList ++ ["</script>".toList] := by
      rw [himports, LineEnds.flatMap_lines_of_within hwithin]

/-- If checking tells nothing about a sketch, its imports written as declarations from a package
within a line are sound: behind its first lines the script has nothing but declarations up to the last
line, no two of them are the same or declare the same identifier, each identifier is a word of ASCII
letters other than the one that every script imports, and of every opening tag of the template with a
name from the library the identifier is declared exactly once. -/
theorem live_imports_declared_once (ends : LineEnds) (options : SourceOptions) (sketch : Sketch)
    (hvalid : sketch.violations = []) (hlive : options.imports = .live)
    (hpackage : ends.Within options.package.toList) :
    (blocks options sketch).template = partsText (templateParts sketch) ∧
      ∃ identifiers : List String,
        ends.lines (blocks options sketch).script.toList =
            (scriptHead options).map String.toList ++
              (identifiers.map (declaration options.package)).map String.toList ++
                ["</script>".toList] ∧
          (identifiers.map (declaration options.package)).Nodup ∧
          identifiers.Nodup ∧
          (∀ id ∈ identifiers,
            id ≠ "" ∧ (∀ c ∈ id.toList, c.isAlpha = true) ∧ id ≠ "ref") ∧
          ∀ name ∈ openedNames (templateParts sketch),
            options.libraryPrefix.toList <+: name.toList →
              identifiers.count (identifier name) = 1 := by
  have hknown : ∀ name ∈ importedNames options sketch, name ∈ vocabulary := fun name hname =>
    Sketch.name_mem_vocabulary hvalid (mem_importedNames_iff.mp hname).1
  have hnodup : ((importedNames options sketch).map identifier).Nodup :=
    (nodup_importedNames options sketch).map_on fun a ha b hb heq =>
      identifier_injOn_vocabulary (hknown a ha) (hknown b hb) heq
  refine ⟨(partsText_templateParts sketch).symm, (importedNames options sketch).map identifier,
    lines_script_of_live hlive hpackage hknown, hnodup.map (declaration_injective _), hnodup, ?_, ?_⟩
  · intro id hid
    obtain ⟨name, hname, rfl⟩ := List.mem_map.mp hid
    exact identifier_of_mem_vocabulary (hknown name hname)
  · intro name hname hlibrary
    rw [openedNames_templateParts] at hname
    have hne : name ≠ "" := by
      -- The empty name is not in the vocabulary.
      rintro rfl
      exact absurd (Sketch.name_mem_vocabulary hvalid hname) (by decide)
    exact List.count_eq_one_of_mem hnodup
      (List.mem_map_of_mem (mem_importedNames_iff.mpr ⟨hname, hne, hlibrary⟩))

/-- A card in a card with a chart in it: the card is declared once, and the chart not at all. -/
theorem live_imports_declared_once_card :
    (⟨.empty, [(Component.named "d-card").withChild (.component
        ((Component.named "d-card").withChild (.component (.named "simple-chart"))))]⟩ :
          Sketch).violations = [] ∧
      ∃ identifiers : List String, identifiers.Nodup ∧ identifiers.count "DCard" = 1 := by
  have hvalid : (⟨.empty, [(Component.named "d-card").withChild (.component
      ((Component.named "d-card").withChild (.component (.named "simple-chart"))))]⟩ :
        Sketch).violations = [] := by decide
  obtain ⟨-, identifiers, -, -, hnodup, -, hdeclared⟩ := live_imports_declared_once .script
    ⟨"d-", "vue-devui", .live⟩ _ hvalid rfl (LineEnds.within_of_all (by decide))
  refine ⟨hvalid, identifiers, hnodup, ?_⟩
  have hcard := hdeclared "d-card" (by decide) (by decide)
  rwa [show identifier "d-card" = "DCard" by decide] at hcard

end Markup

end PageSketch
