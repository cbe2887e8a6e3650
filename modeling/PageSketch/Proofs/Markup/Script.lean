import PageSketch.Proofs.Markup.Identifiers
import PageSketch.Proofs.Markup.Imports

/-!
# The lines of a script

A script is put together line by line: three lines that come first, one for each import, and one that
comes last. The identifier of a name stands in its import as it is, so a name with several lines makes
several lines of a script. An import that is a comment is one in its first line; behind that it is what
the name makes it, and a script is nothing but comments exactly if the further lines of all names from
the library begin like comments.
-/

namespace PageSketch

namespace Markup

open Text (LineEnds)

variable {ends : LineEnds} {options : SourceOptions}

/-! ## Line by line -/

/-- The lines that come first are within a line each if the package is. -/
theorem within_scriptHead (hpackage : ends.Within options.package.toList) :
    ∀ line ∈ scriptHead options, ends.Within line.toList := by
  intro line hline
  rw [scriptHead, List.mem_cons, List.mem_cons, List.mem_singleton] at hline
  rcases hline with rfl | rfl | rfl
  · exact LineEnds.within_of_all (by decide)
  · exact LineEnds.within_of_all (by decide)
  · rw [String.toList_append]
    exact (LineEnds.within_of_all (by decide)).append hpackage

/-- The lines of a script are those that come first, those of each import, and the one that comes
last. -/
theorem lines_scriptBlock (hpackage : ends.Within options.package.toList) (used : List String) :
    ends.lines (scriptBlock options used).toList =
      (scriptHead options).map String.toList ++
        ((used.filter (isFromLibrary options)).flatMap fun name =>
          ends.lines (importLine options name).toList) ++ ["</script>".toList] := by
  have hlast : ends.lines "</script>".toList = ["</script>".toList] :=
    LineEnds.lines_of_within (LineEnds.within_of_all (by decide))
  calc ends.lines (scriptBlock options used).toList
    _ = (scriptHead options ++ (used.filter (isFromLibrary options)).map (importLine options) ++
          ["</script>"]).flatMap fun line => ends.lines line.toList :=
      LineEnds.lines_intercalate _ _
    _ = (scriptHead options).map String.toList ++
          ((used.filter (isFromLibrary options)).flatMap fun name =>
            ends.lines (importLine options name).toList) ++ ["</script>".toList] := by
      rw [List.flatMap_append, List.flatMap_append, List.flatMap_map, List.flatMap_singleton,
        LineEnds.flatMap_lines_of_within (within_scriptHead hpackage), hlast]

/-- What stands behind the identifier in an import. -/
def importEnd (package : String) : String := " \x7d from '" ++ package ++ "';"

/-- It is within a line if the package is. -/
theorem within_importEnd {package : String} (hpackage : ends.Within package.toList) :
    ends.Within (importEnd package).toList := by
  rw [importEnd, String.toList_append, String.toList_append]
  exact ((LineEnds.within_of_all (by decide)).append hpackage).append
    (LineEnds.within_of_all (by decide))

/-! ## Comments -/

/-- What a comment begins with. -/
def commentMark : List Char := ['/', '/']

/-- Whether all lines of a script are comments but the first two, which open the script and import
what every page needs, and the last one, which closes it. -/
def OnlyComments (ends : LineEnds) (script : String) : Prop :=
  ∃ comments : List (List Char),
    ends.lines script.toList =
      ["<script setup lang=\"ts\">".toList, "import \x7b ref \x7d from 'vue';".toList] ++ comments ++
        ["</script>".toList] ∧
    ∀ line ∈ comments, commentMark <+: line

/-- A script whose lines are known is nothing but comments exactly if those in between are. -/
theorem onlyComments_iff_of_lines {script : String} {between : List (List Char)}
    (hlines : ends.lines script.toList =
      ["<script setup lang=\"ts\">".toList, "import \x7b ref \x7d from 'vue';".toList] ++ between ++
        ["</script>".toList]) :
    OnlyComments ends script ↔ ∀ line ∈ between, commentMark <+: line := by
  constructor
  · rintro ⟨comments, hcomments, hall⟩
    have hsame := List.append_cancel_right (hlines.symm.trans hcomments)
    rwa [List.append_cancel_left hsame]
  · intro hall
    exact ⟨between, hlines, hall⟩

/-- What stands behind the identifier in an import does not make a comment of a line. -/
theorem isPrefix_append_importEnd (line : List Char) (package : String) :
    commentMark <+: line ++ (importEnd package).toList ↔ commentMark <+: line := by
  have hend : (importEnd package).toList = ' ' :: ("\x7d from '" ++ package ++ "';").toList := by
    rw [importEnd, String.toList_append, String.toList_append, String.toList_append,
      String.toList_append]
    rfl
  rw [hend, commentMark]
  match line with
  | [] | [c] | c :: d :: rest => simp

/-- An import that is a comment is one in all of its lines exactly if the further lines of the name
begin like comments when the hyphens are dropped. -/
theorem forall_lines_importLine_iff (hadvisory : options.imports = .advisory)
    (hpackage : ends.Within options.package.toList) (name : String) :
    (∀ line ∈ ends.lines (importLine options name).toList, commentMark <+: line) ↔
      ∀ line ∈ (ends.lines name.toList).tail, commentMark <+: line.filter (· ≠ '-') := by
  obtain ⟨first, others, hname⟩ := Text.exists_piecesBy_eq_cons ends.isEnd name.toList
  have htext : (importLine options name).toList = "// import \x7b ".toList ++
      (joinWords true name.toList ++ (importEnd options.package).toList) := by
    rw [importLine_eq, if_pos hadvisory]
    simp [identifier, importEnd]
  have hcaseless : ∀ b ∈ commentMark, Text.isCaseless b = true :=
    List.all_eq_true.mp (by decide)
  calc (∀ line ∈ ends.lines (importLine options name).toList, commentMark <+: line)
    _ ↔ ∀ line ∈ (ends.lines (joinWords true name.toList)).tail, commentMark <+: line := by
      rw [htext]
      exact LineEnds.forall_lines_append_iff (LineEnds.within_of_all (by decide))
        (within_importEnd hpackage) (by decide)
        (fun line => isPrefix_append_importEnd line options.package) _
    _ ↔ ∀ line ∈ others, commentMark <+: joinWords false line := by
      rw [lines_joinWords true hname, List.tail_cons, List.forall_mem_map]
    _ ↔ ∀ line ∈ (ends.lines name.toList).tail, commentMark <+: line.filter (· ≠ '-') := by
      rw [LineEnds.lines, hname, List.tail_cons]
      exact forall₂_congr fun line _ => isPrefix_joinWords_iff hcaseless false line

/-- With imports that are comments a script is nothing but comments exactly if every import is one in
all of its lines. -/
theorem onlyComments_scriptBlock_iff (hadvisory : options.imports = .advisory)
    (hpackage : ends.Within options.package.toList) (used : List String) :
    OnlyComments ends (scriptBlock options used) ↔
      ∀ name ∈ used, isFromLibrary options name = true →
        ∀ line ∈ (ends.lines name.toList).tail, commentMark <+: line.filter (· ≠ '-') := by
  have hreminder : commentMark <+: ("// 请确保已安装 " ++ options.package).toList := by
    rw [String.toList_append]
    exact List.IsPrefix.trans (by decide) (List.prefix_append _ _)
  have hlines : ends.lines (scriptBlock options used).toList =
      ["<script setup lang=\"ts\">".toList, "import \x7b ref \x7d from 'vue';".toList] ++
        (("// 请确保已安装 " ++ options.package).toList ::
          (used.filter (isFromLibrary options)).flatMap fun name =>
            ends.lines (importLine options name).toList) ++ ["</script>".toList] :=
    lines_scriptBlock hpackage used
  rw [onlyComments_iff_of_lines hlines, List.forall_mem_cons, and_iff_right hreminder]
  constructor
  · intro hall name hname hlibrary
    refine (forall_lines_importLine_iff hadvisory hpackage name).mp fun line hline => ?_
    exact hall line (List.mem_flatMap.mpr ⟨name, List.mem_filter.mpr ⟨hname, hlibrary⟩, hline⟩)
  · intro hall line hline
    obtain ⟨name, hname, hline⟩ := List.mem_flatMap.mp hline
    obtain ⟨hname, hlibrary⟩ := List.mem_filter.mp hname
    exact (forall_lines_importLine_iff hadvisory hpackage name).mpr (hall name hname hlibrary) line
      hline

/-- With imports that are comments, and a package within a line, a script is nothing but comments
exactly if every further line of a name from the library begins like a comment when the hyphens are
dropped; so it is if those names are within a line each. -/
theorem only_comments_iff (ends : LineEnds) (options : SourceOptions) (sketch : Sketch)
    (hadvisory : options.imports = .advisory) (hpackage : ends.Within options.package.toList) :
    (OnlyComments ends (blocks options sketch).script ↔
      ∀ name ∈ sketch.names, options.libraryPrefix.toList <+: name.toList →
        ∀ line ∈ (ends.lines name.toList).tail, commentMark <+: line.filter (· ≠ '-')) ∧
    ((∀ name ∈ sketch.names, options.libraryPrefix.toList <+: name.toList →
        ends.Within name.toList) →
      OnlyComments ends (blocks options sketch).script) := by
  have hiff : OnlyComments ends (blocks options sketch).script ↔
      ∀ name ∈ sketch.names, options.libraryPrefix.toList <+: name.toList →
        ∀ line ∈ (ends.lines name.toList).tail, commentMark <+: line.filter (· ≠ '-') := by
    refine (onlyComments_scriptBlock_iff hadvisory hpackage _).trans ⟨?_, ?_⟩
    · intro hall name hname hlibrary line hline
      have hne : name ≠ "" := by
        -- The empty name has one line only.
        rintro rfl
        exact List.not_mem_nil hline
      exact hall name (mem_usedNames_iff.mpr ⟨hname, hne⟩) ((isFromLibrary_iff ..).mpr hlibrary) line
        hline
    · intro hall name hname hlibrary
      exact hall name (mem_usedNames_iff.mp hname).1 ((isFromLibrary_iff ..).mp hlibrary)
  refine ⟨hiff, fun hwithin => hiff.mpr fun name hname hlibrary line hline => ?_⟩
  rw [LineEnds.lines_of_within (hwithin name hname hlibrary)] at hline
  exact absurd hline List.not_mem_nil

/-- A name with a second line that begins like a comment behind a hyphen. -/
theorem only_comments_iff_second_line :
    SourceOptions.standard.imports = .advisory ∧
      LineEnds.script.Within SourceOptions.standard.package.toList ∧
      OnlyComments .script (blocks .standard ⟨.empty, [.named "d-a\n-//b"]⟩).script := by
  have hpackage : LineEnds.script.Within SourceOptions.standard.package.toList :=
    LineEnds.within_of_all (by decide)
  obtain ⟨hiff, -⟩ :=
    only_comments_iff .script .standard ⟨.empty, [.named "d-a\n-//b"]⟩ rfl hpackage
  exact ⟨rfl, hpackage, hiff.mpr (by decide)⟩

/-- A name with a line of its own makes a line of the script that is no comment, and what stands there
is executed. -/
theorem name_leaves_comment :
    SourceOptions.standard.imports = .advisory ∧
      LineEnds.feeds.Within SourceOptions.standard.package.toList ∧
      "alert(1) // \x7d from 'vue-devui';".toList ∈ LineEnds.feeds.lines
        (blocks .standard ⟨.empty, [.named "d-a\nalert(1) //"]⟩).script.toList ∧
      ¬OnlyComments .feeds (blocks .standard ⟨.empty, [.named "d-a\nalert(1) //"]⟩).script := by
  have hpackage : LineEnds.feeds.Within SourceOptions.standard.package.toList :=
    LineEnds.within_of_all (by decide)
  refine ⟨rfl, hpackage, by decide +kernel, fun hcomments => ?_⟩
  have hall := (onlyComments_scriptBlock_iff rfl hpackage _).mp hcomments
  exact absurd (hall "d-a\nalert(1) //") (by decide)

end Markup

end PageSketch
