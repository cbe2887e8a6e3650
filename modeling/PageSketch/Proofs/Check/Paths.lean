import PageSketch.Check
import PageSketch.Proofs.Json.Integers
import PageSketch.Proofs.Sketch.Places

/-!
# The texts of places

The path that is told for a place is its indices in decimal digits between fixed words. Digits end
at the bracket behind them, so a place is determined by its path.
-/

namespace PageSketch

open Json

/-! ## Places as paths -/

/-- The path of the component at a place below the component with a path. -/
def pathBelow (path : String) : Place → String
  | [] => path
  | i :: rest => pathBelow (childPath path i) rest

/-- The path of the component at a place. -/
def Place.path : Place → String
  | [] => ""
  | i :: rest => pathBelow (rootPath i) rest

/-- The path of the components that stand side by side below a place. -/
def Place.siblingsPath : Place → String
  | [] => "components"
  | i :: rest => childrenPath (path (i :: rest))

/-! ## Digits -/

/-- Numbers with the same digits are the same. -/
theorem eq_of_toDigits_eq {m n : Nat} (h : Nat.toDigits 10 m = Nat.toDigits 10 n) : m = n :=
  calc m
    _ = Nat.ofDigitChars 10 (Nat.toDigits 10 m) 0 := Nat.ofDigitChars_ten_toDigits.symm
    _ = Nat.ofDigitChars 10 (Nat.toDigits 10 n) 0 := by rw [h]
    _ = n := Nat.ofDigitChars_ten_toDigits

/-- A bracket does not continue digits. -/
theorem endsDigits_bracket (cs : List Char) : EndsDigits (']' :: cs) := by
  intro c hc
  obtain rfl : ']' = c := by simpa using hc
  decide

/-- An index and what stands behind its bracket can be told apart. -/
theorem eq_of_index_eq {m n : Nat} {cs cs' : List Char}
    (h : Nat.toDigits 10 m ++ ']' :: cs = Nat.toDigits 10 n ++ ']' :: cs') : m = n ∧ cs = cs' := by
  have htake := congrArg (List.takeWhile isDigit) h
  have hdrop := congrArg (List.dropWhile isDigit) h
  rw [takeWhile_digits (areDigits_toDigits m) (endsDigits_bracket cs),
    takeWhile_digits (areDigits_toDigits n) (endsDigits_bracket cs')] at htake
  rw [dropWhile_digits (areDigits_toDigits m) (endsDigits_bracket cs),
    dropWhile_digits (areDigits_toDigits n) (endsDigits_bracket cs')] at hdrop
  exact ⟨eq_of_toDigits_eq htake, List.tail_eq_of_cons_eq hdrop⟩

/-! ## Paths as places -/

/-- The characters behind the path of a component that lead to a place below it. -/
def Place.chars (place : Place) : List Char :=
  place.flatMap fun i => ".children[".toList ++ (Nat.toDigits 10 i ++ [']'])

/-- The path of a place below a component continues that of the component. -/
theorem toList_pathBelow (path : String) (place : Place) :
    (pathBelow path place).toList = path.toList ++ place.chars := by
  induction place generalizing path with
  | nil => simp [pathBelow, Place.chars]
  | cons i rest ih =>
    rw [pathBelow, ih, childPath, childrenPath, Nat.toString_eq_repr]
    simp only [String.toList_append, Nat.toList_repr, Place.chars, List.flatMap_cons,
      List.append_assoc]
    rfl

/-- The path of a component begins with the index of the top-level component that it is in. -/
theorem toList_path_cons (i : Nat) (rest : Place) :
    (Place.path (i :: rest)).toList =
      "components[".toList ++ (Nat.toDigits 10 i ++ ']' :: rest.chars) := by
  rw [Place.path, toList_pathBelow, rootPath, Nat.toString_eq_repr]
  simp only [String.toList_append, Nat.toList_repr, List.append_assoc]
  rfl

/-- Different places are led to by different characters. -/
theorem Place.chars_injective {p q : Place} (h : p.chars = q.chars) : p = q := by
  induction p generalizing q with
  | nil =>
    cases q with
    | nil => rfl
    | cons j q => simp [Place.chars] at h
  | cons i p ih =>
    cases q with
    | nil => simp [Place.chars] at h
    | cons j q =>
      simp only [Place.chars, List.flatMap_cons, List.append_assoc, List.singleton_append,
        List.append_cancel_left_eq] at h
      obtain ⟨rfl, hrest⟩ := eq_of_index_eq h
      rw [ih hrest]

/-- Components at different places have different paths. -/
theorem Place.path_injective {p q : Place} (hp : p ≠ []) (hq : q ≠ []) (h : p.path = q.path) :
    p = q := by
  obtain ⟨i, p, rfl⟩ := List.exists_cons_of_ne_nil hp
  obtain ⟨j, q, rfl⟩ := List.exists_cons_of_ne_nil hq
  have hchars := congrArg String.toList h
  rw [toList_path_cons, toList_path_cons, List.append_cancel_left_eq] at hchars
  obtain ⟨rfl, hrest⟩ := eq_of_index_eq hchars
  rw [Place.chars_injective hrest]

/-- The path of the top-level components is no path of children. -/
theorem Place.siblingsPath_cons_ne (i : Nat) (rest : Place) :
    Place.siblingsPath (i :: rest) ≠ Place.siblingsPath [] := by
  intro h
  have hchars := congrArg String.toList h
  rw [siblingsPath, siblingsPath, childrenPath, String.toList_append, toList_path_cons] at hchars
  have hlength : "components[".toList.length ≤ "components".toList.length := by
    rw [← hchars, List.append_assoc, List.length_append]
    exact Nat.le_add_right ..
  exact absurd hlength (by decide)

/-- Siblings at different places have different paths. -/
theorem Place.siblingsPath_injective {p q : Place} (h : p.siblingsPath = q.siblingsPath) :
    p = q := by
  cases p with
  | nil =>
    cases q with
    | nil => rfl
    | cons j q => exact absurd h.symm (siblingsPath_cons_ne j q)
  | cons i p =>
    cases q with
    | nil => exact absurd h (siblingsPath_cons_ne i p)
    | cons j q =>
      have hchars := congrArg String.toList h
      rw [siblingsPath, siblingsPath, childrenPath, childrenPath, String.toList_append,
        String.toList_append, List.append_cancel_right_eq, String.toList_inj] at hchars
      exact path_injective nofun nofun hchars

end PageSketch
