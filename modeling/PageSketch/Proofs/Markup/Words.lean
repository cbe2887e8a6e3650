import PageSketch.Proofs.Markup.Identifiers
import PageSketch.Proofs.Text.Raising

/-!
# Identifiers word by word

The hyphens of a name divide it into words, and the identifier is made of these words in their order,
each with its first character raised. Words without characters add nothing to it, wherever the hyphens
around them stand. So the identifier of two names with a hyphen between them is made of their
identifiers, it has no hyphen of its own, and making an identifier of it again changes nothing, because
the characters of an uppercase are not raised any further.
-/

namespace PageSketch.Markup

open Text (uppercase isCaseless)

/-! ## Words -/

/-- A word with its first character raised. -/
def capitalized : List Char → List Char
  | [] => []
  | c :: rest => uppercase c ++ rest

/-- Words without characters add nothing. -/
theorem flatMap_capitalized_filter (words : List (List Char)) :
    (words.filter (· ≠ [])).flatMap capitalized = words.flatMap capitalized := by
  induction words with
  | nil => rfl
  | cons word others ih =>
    rw [List.flatMap_cons, ← ih]
    cases word with
    | nil => rfl
    | cons c rest => rfl

/-- The word that joining is in is raised if the flag says so, and the words behind it always are. -/
theorem joinWords_of_splitOn {cs word : List Char} {others : List (List Char)} (raise : Bool)
    (h : cs.splitOn '-' = word :: others) :
    joinWords raise cs =
      (if raise then capitalized word else word) ++ others.flatMap capitalized := by
  -- The flag is lowered by the first character of a word and raised by a hyphen.
  induction cs generalizing raise word others with
  | nil =>
    obtain ⟨rfl, rfl⟩ := List.cons.inj h
    cases raise <;> rfl
  | cons c rest ih =>
    obtain ⟨word', others', hrest⟩ := List.exists_cons_of_ne_nil (List.splitOn_ne_nil '-' rest)
    rw [List.splitOn_cons_eq_if_modifyHead, hrest, List.modifyHead_cons] at h
    by_cases hc : c = '-'
    · subst hc
      rw [if_pos (beq_self_eq_true '-')] at h
      obtain ⟨rfl, rfl⟩ := List.cons.inj h
      rw [joinWords_hyphen, ih true hrest, List.flatMap_cons]
      cases raise <;> rfl
    · rw [if_neg (by simpa using hc)] at h
      obtain ⟨rfl, rfl⟩ := List.cons.inj h
      rw [joinWords_cons_of_ne hc, ih false hrest]
      cases raise with
      | false => rfl
      | true => exact (List.append_assoc (uppercase c) word' _).symm

/-- All words of a text are raised when it begins with a word. -/
theorem joinWords_eq_flatMap (cs : List Char) :
    joinWords true cs = (cs.splitOn '-').flatMap capitalized := by
  obtain ⟨word, others, h⟩ := List.exists_cons_of_ne_nil (List.splitOn_ne_nil '-' cs)
  rw [joinWords_of_splitOn true h, h, List.flatMap_cons]
  rfl

/-- The words around a hyphen are those before it and those behind it. -/
theorem joinWords_append_hyphen (before behind : List Char) :
    joinWords true (before ++ '-' :: behind) = joinWords true before ++ joinWords true behind := by
  rw [joinWords_eq_flatMap, joinWords_eq_flatMap, joinWords_eq_flatMap,
    List.splitOn_append_cons_self, List.flatMap_append]

/-! ## Joining twice -/

/-- No hyphen is left. -/
theorem hyphen_not_mem_joinWords (raise : Bool) (cs : List Char) : '-' ∉ joinWords raise cs := by
  induction cs generalizing raise with
  | nil => exact List.not_mem_nil
  | cons c rest ih =>
    by_cases hc : c = '-'
    · subst hc
      rw [joinWords_hyphen]
      exact ih true
    · rw [joinWords_cons_of_ne hc, List.mem_append, not_or]
      refine ⟨?_, ih false⟩
      intro hmem
      have hcaseless : isCaseless '-' = true := by decide
      exact hc (eq_of_mem_raised hcaseless hmem)

/-- The first character of joined words is raised already. -/
theorem uppercase_of_joinWords_eq_cons {cs rest : List Char} {d : Char}
    (h : joinWords true cs = d :: rest) : uppercase d = [d] := by
  induction cs with
  | nil => exact nomatch h
  | cons c cs ih =>
    by_cases hc : c = '-'
    · subst hc
      rw [joinWords_hyphen] at h
      exact ih h
    · rw [joinWords_cons_of_ne hc] at h
      obtain ⟨u, others, hraised⟩ := List.exists_cons_of_ne_nil (raised_ne_nil true c)
      rw [hraised, List.cons_append] at h
      obtain ⟨rfl, -⟩ := List.cons.inj h
      have hmem : u ∈ uppercase c := by
        show u ∈ raised true c
        rw [hraised]
        exact List.mem_cons_self
      exact Text.uppercase_of_mem_uppercase hmem

/-- Joining words again changes nothing. -/
theorem joinWords_joinWords (cs : List Char) :
    joinWords true (joinWords true cs) = joinWords true cs := by
  have hword : joinWords true (joinWords true cs) = capitalized (joinWords true cs) := by
    rw [joinWords_eq_flatMap (joinWords true cs),
      List.splitOn_eq_singleton (hyphen_not_mem_joinWords true cs), List.flatMap_singleton]
  rw [hword]
  cases hjoined : joinWords true cs with
  | nil => rfl
  | cons d rest => rw [capitalized, uppercase_of_joinWords_eq_cons hjoined, List.singleton_append]

/-! ## Identifiers -/

/-- The characters of an identifier are those of the words between the hyphens of the name. -/
theorem toList_identifier (name : String) :
    (identifier name).toList =
      ((name.toList.splitOn '-').filter (· ≠ [])).flatMap capitalized := by
  rw [identifier, String.toList_ofList, flatMap_capitalized_filter, joinWords_eq_flatMap]

/-- The identifier of a name consists of the words between its hyphens, each with its first character
raised. A hyphen between names goes, an identifier has none, and it is its own identifier. -/
theorem identifier_by_words :
    (∀ name, (identifier name).toList =
      ((name.toList.splitOn '-').filter (· ≠ [])).flatMap capitalized) ∧
    (∀ a b, identifier (a ++ "-" ++ b) = identifier a ++ identifier b) ∧
    (∀ name, '-' ∉ (identifier name).toList) ∧
    ∀ name, identifier (identifier name) = identifier name := by
  refine ⟨toList_identifier, fun a b => ?_, fun name => ?_, fun name => ?_⟩
  · have hchars : (a ++ "-" ++ b).toList = a.toList ++ '-' :: b.toList := by
      rw [String.toList_append, String.toList_append, List.append_assoc]
      rfl
    rw [identifier, hchars, joinWords_append_hyphen, String.ofList_append]
    rfl
  · rw [identifier, String.toList_ofList]
    exact hyphen_not_mem_joinWords true name.toList
  · rw [identifier, identifier, String.toList_ofList, joinWords_joinWords]

/-- Hyphens at both ends and two together, and a letter whose uppercase has two. -/
example : identifier "-ßa--form-item-" = "SSaFormItem" := by decide

end PageSketch.Markup
