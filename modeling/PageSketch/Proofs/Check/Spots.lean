import PageSketch.Proofs.Check.Violations
import PageSketch.Proofs.Text.Pieces

/-!
# Paths lead back into the sketch

A path is told for a spot of a sketch: for one component, or for the components that stand side by
side below a place. `Spot.read?` reads a path back, piece by piece between its points, and
`Sketch.follow?` goes where it leads. Following the path of a spot gives the spot and what stands
there, so different spots have different paths, and every violation leads to the one place where its
rule is broken.
-/

namespace PageSketch

open Json

/-! ## Spots -/

/-- What a path is told for. -/
inductive Spot where
  | component (place : Place)
  /-- The components that stand side by side below a place. -/
  | siblings (place : Place)
deriving DecidableEq

/-- What stands at a spot. -/
inductive Found where
  | component (c : Component)
  | siblings (components : List Component)

/-- The path of a spot. -/
def Spot.path : Spot → String
  | component place => place.path
  | siblings place => place.siblingsPath

/-- The same spot in a component with an index. -/
def Spot.below (index : Nat) : Spot → Spot
  | component place => component (index :: place)
  | siblings place => siblings (index :: place)

/-- What stands at a spot of a sketch. -/
def Sketch.at? (s : Sketch) : Spot → Option Found
  | .component place => (s.componentAt? place).map .component
  | .siblings place => (s.siblingsAt? place).map .siblings

/-! ## Reading paths -/

/-- The number in decimal digits with a bracket behind them. -/
def readIndex? (cs : List Char) : Option Nat :=
  if cs.takeWhile isDigit ≠ [] ∧ cs.dropWhile isDigit = [']'] then
    some (Nat.ofDigitChars 10 (cs.takeWhile isDigit) 0)
  else none

/-- The index in a piece of a path: a word and the index in brackets. -/
def readPiece? (word piece : List Char) : Option Nat :=
  if (word ++ ['[']).isPrefixOf piece then readIndex? (piece.drop (word.length + 1)) else none

/-- The spot that the pieces of a path lead to, from the components on that a word stands for. The
word without an index is for all of them and ends the path. -/
def Spot.ofPieces? (word : List Char) : List (List Char) → Option Spot
  | [] => none
  | [piece] =>
    if piece = word then some (.siblings []) else (readPiece? word piece).map fun i => .component [i]
  | piece :: rest =>
    (readPiece? word piece).bind fun i => (ofPieces? "children".toList rest).map (below i)

/-- The spot that a path is told for. -/
def Spot.read? (path : String) : Option Spot :=
  ofPieces? "components".toList (Text.pieces '.' path.toList)

/-- Where a path leads in a sketch, and what stands there. -/
def Sketch.follow? (s : Sketch) (path : String) : Option (Spot × Found) :=
  (Spot.read? path).bind fun spot => (s.at? spot).map (spot, ·)

/-! ## Pieces of paths -/

/-- A word with an index in brackets. -/
def indexed (word : List Char) (index : Nat) : List Char :=
  word ++ '[' :: (Nat.toDigits 10 index ++ [']'])

/-- The index of a piece is read back. -/
theorem readPiece?_indexed (word : List Char) (index : Nat) :
    readPiece? word (indexed word index) = some index := by
  have hpiece : indexed word index = (word ++ ['[']) ++ (Nat.toDigits 10 index ++ [']']) := by
    simp [indexed]
  have hword : (word ++ ['[']).isPrefixOf (indexed word index) = true := by
    rw [List.isPrefixOf_iff_prefix, hpiece]
    exact List.prefix_append ..
  have hrest : (indexed word index).drop (word.length + 1) = Nat.toDigits 10 index ++ [']'] := by
    rw [hpiece, List.drop_left' (by simp)]
  rw [readPiece?, if_pos hword, hrest, readIndex?,
    takeWhile_digits (areDigits_toDigits index) (endsDigits_bracket []),
    dropWhile_digits (areDigits_toDigits index) (endsDigits_bracket []),
    if_pos ⟨Nat.toDigits_ne_nil, rfl⟩, Nat.ofDigitChars_ten_toDigits]

/-- A word with an index is not the word alone. -/
theorem indexed_ne (word : List Char) (index : Nat) : indexed word index ≠ word := by
  simp [indexed]

/-- No point stands in a piece when there is none in its word. -/
theorem point_not_mem_indexed {word : List Char} (h : '.' ∉ word) (index : Nat) :
    ∀ c ∈ indexed word index, (c == '.') = false := by
  intro c hc
  rw [beq_eq_false_iff_ne]
  rintro rfl
  have hdigits : '.' ∉ Nat.toDigits 10 index := fun hmem =>
    ne_of_isDigit (areDigits_toDigits index _ hmem) (by decide) rfl
  simp [indexed, h, hdigits] at hc

/-- The pieces of the path of a component, from the components on that a word stands for. -/
def Place.piecesFrom (word : List Char) : Place → List (List Char)
  | [] => []
  | i :: rest => indexed word i :: piecesFrom "children".toList rest

/-- The word for the components that stand side by side below a place, if a word stands for the
uppermost ones. -/
def Place.lastWord (word : List Char) : Place → List Char
  | [] => word
  | _ :: _ => "children".toList

/-- The last piece of a path without an index is for all components. -/
theorem Spot.ofPieces?_word (word : List Char) : ofPieces? word [word] = some (.siblings []) :=
  if_pos rfl

/-- The last piece of a path with an index is for one component. -/
theorem Spot.ofPieces?_indexed (word : List Char) (i : Nat) :
    ofPieces? word [indexed word i] = some (.component [i]) := by
  have hpiece : ofPieces? word [indexed word i] =
      (readPiece? word (indexed word i)).map fun i => .component [i] :=
    if_neg (indexed_ne word i)
  rw [hpiece, readPiece?_indexed, Option.map_some]

/-- Any other piece leads into a component. -/
theorem Spot.ofPieces?_indexed_cons (word next : List Char) (i : Nat) (rest : List (List Char)) :
    ofPieces? word (indexed word i :: next :: rest) =
      (ofPieces? "children".toList (next :: rest)).map (below i) := by
  have hpieces : ofPieces? word (indexed word i :: next :: rest) =
      (readPiece? word (indexed word i)).bind fun i =>
        (ofPieces? "children".toList (next :: rest)).map (below i) := rfl
  rw [hpieces, readPiece?_indexed, Option.bind_some]

/-- The pieces of the path of a component lead to it. -/
theorem Spot.ofPieces?_component {place : Place} (h : place ≠ []) (word : List Char) :
    ofPieces? word (place.piecesFrom word) = some (.component place) := by
  induction place generalizing word with
  | nil => exact absurd rfl h
  | cons i rest ih =>
    cases rest with
    | nil => exact ofPieces?_indexed word i
    | cons j rest =>
      have hrest := ih (List.cons_ne_nil j rest) "children".toList
      rw [Place.piecesFrom] at hrest
      rw [Place.piecesFrom, Place.piecesFrom, ofPieces?_indexed_cons, hrest, Option.map_some, below]

/-- The pieces of the path of siblings lead to them. -/
theorem Spot.ofPieces?_siblings (place : Place) (word : List Char) :
    ofPieces? word (place.piecesFrom word ++ [place.lastWord word]) = some (.siblings place) := by
  induction place generalizing word with
  | nil => exact ofPieces?_word word
  | cons i rest ih =>
    have hlast : Place.lastWord word (i :: rest) = Place.lastWord "children".toList rest := by
      cases rest <;> rfl
    obtain ⟨next, others, hnext⟩ := List.exists_cons_of_ne_nil
      (List.append_ne_nil_of_right_ne_nil (Place.piecesFrom "children".toList rest)
        (List.cons_ne_nil (Place.lastWord "children".toList rest) []))
    have hrest := ih "children".toList
    rw [hnext] at hrest
    rw [Place.piecesFrom, hlast, List.cons_append, hnext, ofPieces?_indexed_cons, hrest,
      Option.map_some, below]

/-- The characters that lead to a place below a component add a piece for each index. -/
theorem pieces_append_chars {front : List Char} (h : ∀ c ∈ front, (c == '.') = false)
    (place : Place) :
    Text.pieces '.' (front ++ place.chars) = front :: place.piecesFrom "children".toList := by
  induction place generalizing front with
  | nil => rw [Place.chars, List.flatMap_nil, List.append_nil]; exact Text.piecesBy_of_forall h
  | cons i rest ih =>
    have hchars : Place.chars (i :: rest) =
        '.' :: (indexed "children".toList i ++ Place.chars rest) := by
      simp [Place.chars, indexed]
    have hindexed : ∀ c ∈ indexed "children".toList i, (c == '.') = false :=
      point_not_mem_indexed (by decide) i
    calc Text.pieces '.' (front ++ Place.chars (i :: rest))
      _ = Text.piecesBy (· == '.') front ++
          Text.pieces '.' (indexed "children".toList i ++ Place.chars rest) := by
        rw [hchars]
        exact Text.piecesBy_append_cons rfl front _
      _ = front :: Place.piecesFrom "children".toList (i :: rest) := by
        rw [Text.piecesBy_of_forall h, ih hindexed, Place.piecesFrom, List.singleton_append]

/-- The pieces of the path of a component. -/
theorem Place.pieces_path {place : Place} (h : place ≠ []) :
    Text.pieces '.' place.path.toList = place.piecesFrom "components".toList := by
  obtain ⟨i, rest, rfl⟩ := List.exists_cons_of_ne_nil h
  have hpath : (Place.path (i :: rest)).toList =
        indexed "components".toList i ++ Place.chars rest := by
    rw [toList_path_cons]
    simp [indexed]
  rw [hpath, pieces_append_chars (point_not_mem_indexed (by decide) i), Place.piecesFrom]

/-- The pieces of the path of siblings. -/
theorem Place.pieces_siblingsPath (place : Place) :
    Text.pieces '.' place.siblingsPath.toList =
      place.piecesFrom "components".toList ++ [place.lastWord "components".toList] := by
  cases place with
  | nil =>
    have hword : ∀ c ∈ "components".toList, (c == '.') = false := by simp
    exact Text.piecesBy_of_forall hword
  | cons i rest =>
    have hpath : (Place.siblingsPath (i :: rest)).toList =
        (Place.path (i :: rest)).toList ++ '.' :: "children".toList := by
      rw [siblingsPath, childrenPath, String.toList_append]
      rfl
    calc Text.pieces '.' (Place.siblingsPath (i :: rest)).toList
      _ = Text.pieces '.' (Place.path (i :: rest)).toList ++
          Text.pieces '.' "children".toList := by
        rw [hpath]
        exact Text.piecesBy_append_cons rfl _ _
      _ = Place.piecesFrom "components".toList (i :: rest) ++ ["children".toList] := by
        rw [pieces_path (List.cons_ne_nil i rest)]
        congr 1

/-! ## Following paths -/

namespace Sketch

variable {s : Sketch} {spot spot' : Spot} {found : Found}

/-- The path of a spot of a sketch is read back. -/
theorem read?_path_of_at? (h : s.at? spot = some found) : Spot.read? spot.path = some spot := by
  cases spot with
  | component place =>
    obtain ⟨c, hc, -⟩ := Option.map_eq_some_iff.mp h
    have hplace := ne_nil_of_componentAt? hc
    rw [Spot.read?, Spot.path, Place.pieces_path hplace, Spot.ofPieces?_component hplace]
  | siblings place =>
    rw [Spot.read?, Spot.path, Place.pieces_siblingsPath, Spot.ofPieces?_siblings]

/-- Following the path of a spot leads to the spot and to what stands there. -/
theorem follow?_path (h : s.at? spot = some found) : s.follow? spot.path = some (spot, found) := by
  rw [follow?, read?_path_of_at? h, Option.bind_some, h, Option.map_some]

/-- Spots of a sketch with the same path are the same. -/
theorem eq_of_path_eq {found' : Found} (h : s.at? spot = some found)
    (h' : s.at? spot' = some found') (hpath : spot.path = spot'.path) : spot = spot' := by
  have hread := read?_path_of_at? h'
  rw [← hpath, read?_path_of_at? h] at hread
  exact Option.some.inj hread

/-- A rule is broken at a spot: at that of a component if it is about one component, and else at that
of siblings. -/
theorem Breaks.exists_spot {place : Place} {v : Violation} (h : s.Breaks place v) :
    ∃ spot found, s.at? spot = some found ∧ v.path = spot.path ∧
      spot = if v.rank = 4 then .siblings place else .component place := by
  cases h with
  | emptyName hc | unknownName hc | spanOutOfRange hc | spanWithoutGrid hc =>
    exact ⟨.component place, .component _, by rw [at?, hc, Option.map_some], rfl, rfl⟩
  | spanSum hsiblings =>
    exact ⟨.siblings place, .siblings _, by rw [at?, hsiblings, Option.map_some], rfl, rfl⟩

/-- Checking tells what there is to tell about a component at the path of its spot, and what there is
to tell about its children at the path of theirs. -/
theorem violations_eq_spots (s : Sketch) :
    s.violations =
      sumViolations (Spot.siblings []).path s.header.layout (s.components.filterMap (·.span)) ++
        s.places.flatMap fun (place, c) =>
          nameViolations (Spot.component place).path c.name ++
            spanViolations (Spot.component place).path s.header.layout c.span ++
            sumViolations (Spot.siblings place).path s.header.layout
              (c.childComponents.filterMap (·.span)) := by
  rw [violations_eq_flatMap, Spot.path]
  refine congrArg _ (List.flatMap_congr ?_)
  rintro ⟨place, c⟩ hmem
  -- No component is at the empty place, where the path of siblings is that of the whole page.
  obtain ⟨i, rest, rfl⟩ :=
    List.exists_cons_of_ne_nil (ne_nil_of_componentAt? (mem_places_iff.mp hmem))
  simp only [Component.ownViolations, Spot.path, Place.siblingsPath]

/-- Paths address the tree of a sketch. Checking tells the rules about a component at the path of its
spot, and those about siblings at the path of theirs; following the path of a spot leads to the spot
and to what stands there, where leaves are counted too; different spots have different paths; and the
path of a violation leads to the one place where its rule is broken. -/
theorem paths_address_tree (s : Sketch) :
    s.violations =
      sumViolations (Spot.siblings []).path s.header.layout (s.components.filterMap (·.span)) ++
        s.places.flatMap (fun (place, c) =>
          nameViolations (Spot.component place).path c.name ++
            spanViolations (Spot.component place).path s.header.layout c.span ++
            sumViolations (Spot.siblings place).path s.header.layout
              (c.childComponents.filterMap (·.span))) ∧
    (∀ place c, (place, c) ∈ s.places ↔ s.at? (.component place) = some (.component c)) ∧
    (∀ spot found, s.at? spot = some found → s.follow? spot.path = some (spot, found)) ∧
    (∀ spot spot', (s.at? spot).isSome → (s.at? spot').isSome → spot ≠ spot' →
      spot.path ≠ spot'.path) ∧
    ∀ v ∈ s.violations, ∃ place spot found,
      s.follow? v.path = some (spot, found) ∧
      spot = (if v.rank = 4 then .siblings place else .component place) ∧
      ∀ other, s.Breaks other v ↔ other = place := by
  refine ⟨s.violations_eq_spots, fun place c => ?_, fun spot found h => follow?_path h, ?_, ?_⟩
  · rw [mem_places_iff, at?, Option.map_eq_some_iff]
    simp
  · intro spot spot' h h' hne hpath
    obtain ⟨found, hfound⟩ := Option.isSome_iff_exists.mp h
    obtain ⟨found', hfound'⟩ := Option.isSome_iff_exists.mp h'
    exact hne (eq_of_path_eq hfound hfound' hpath)
  · intro v hv
    obtain ⟨place, hbreaks⟩ := mem_violations_iff.mp hv
    obtain ⟨spot, found, hfound, hpath, hspot⟩ := hbreaks.exists_spot
    refine ⟨place, spot, found, ?_, hspot, fun other => ⟨fun h => ?_, fun h => h ▸ hbreaks⟩⟩
    · rw [hpath]
      exact follow?_path hfound
    · exact h.place_eq hbreaks rfl rfl

/-- On the page with faults a path leads past the text in front of a component, the path of the
children leads to the components among them, and the missing name is told where it is missing. -/
theorem paths_address_tree_faulty :
    faulty.follow? "components[0].children[1]" =
        some (.component [0, 1], .component (.named " ")) ∧
      faulty.follow? "components[0].children" =
        some (.siblings [0],
          .siblings [.named " ", (Component.named "d-col").withSpan 30]) ∧
      (Spot.siblings [0]).path ≠ (Spot.component [0]).path ∧
      ∀ other, faulty.Breaks other (.emptyName "components[0].children[1]") ↔ other = [0, 1] := by
  obtain ⟨-, -, hfollow, hdistinct, hone⟩ := faulty.paths_address_tree
  have hname : faulty.componentAt? [0, 1] = some (.named " ") := rfl
  have hblank : .emptyName "components[0].children[1]" ∈ faulty.violations :=
    (emptyName_mem_violations_iff hname).mpr (by decide)
  have hcomponent : faulty.follow? "components[0].children[1]" =
      some (.component [0, 1], .component (.named " ")) := hfollow (.component [0, 1]) _ rfl
  refine ⟨hcomponent, hfollow (.siblings [0]) _ rfl, hdistinct _ _ rfl rfl nofun, fun other => ?_⟩
  obtain ⟨place, spot, found, hpath, hspot, hbreaks⟩ := hone _ hblank
  obtain ⟨rfl, -⟩ := Prod.mk.inj (Option.some.inj (hcomponent.symm.trans hpath))
  obtain rfl : [0, 1] = place := Spot.component.inj hspot
  exact hbreaks other

end Sketch

end PageSketch
