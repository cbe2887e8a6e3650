import Mathlib.Data.List.Nodup
import PageSketch.Check
import PageSketch.Markup.Source
import PageSketch.Proofs.Text.Lines
import PageSketch.Proofs.Text.Uppercase

/-!
# What an identifier keeps of its name

The identifier of a name is made of letters of the name and their uppercase. Characters without case
are never made out of others and are never changed, so the characters that end a line stand in the
identifier where they stand in the name, and a mark of such characters begins a line of the identifier
if it begins the line of the name without its hyphens. The names of the vocabulary have identifiers of
their own.
-/

namespace PageSketch.Markup

open Text (isCaseless uppercase LineEnds)

/-! ## One character -/

/-- What is written for a character that is no hyphen. -/
def raised (raise : Bool) (c : Char) : List Char := if raise then uppercase c else [c]

/-- What is written for a character other than a hyphen stands in front of the rest, in which nothing
is raised until the next hyphen. -/
theorem joinWords_cons_of_ne {c : Char} (hc : c ≠ '-') (raise : Bool) (rest : List Char) :
    joinWords raise (c :: rest) = raised raise c ++ joinWords false rest := by
  rw [joinWords, if_neg hc]
  cases raise <;> rfl

/-- A hyphen is dropped. -/
theorem joinWords_hyphen (raise : Bool) (rest : List Char) :
    joinWords raise ('-' :: rest) = joinWords true rest := by
  rw [joinWords, if_pos rfl]

/-- A character without case is written as it is. -/
theorem raised_of_isCaseless {b : Char} (h : isCaseless b = true) (raise : Bool) :
    raised raise b = [b] := by
  cases raise with
  | false => rfl
  | true => exact Text.uppercase_of_isCaseless h

/-- A character without case is written for no other one. -/
theorem eq_of_mem_raised {b c : Char} {raise : Bool} (h : isCaseless b = true)
    (hmem : b ∈ raised raise c) : c = b := by
  cases raise with
  | false => exact (List.mem_singleton.mp hmem).symm
  | true => exact Text.eq_of_mem_uppercase h hmem

/-- Something is written for every character that is no hyphen. -/
theorem raised_ne_nil (raise : Bool) (c : Char) : raised raise c ≠ [] := by
  cases raise with
  | false => exact List.cons_ne_nil c []
  | true => exact Text.uppercase_ne_nil c

/-! ## Lines -/

section

variable {ends : LineEnds}

/-- A character that ends a line has no case. -/
theorem isCaseless_of_isEnd {c : Char} (h : ends.isEnd c = true) : isCaseless c = true :=
  LineEnds.of_isEnd (by decide) h

/-- A hyphen ends no line. -/
theorem isEnd_hyphen : ends.isEnd '-' = false := by
  rw [← Bool.not_eq_true]
  intro h
  exact absurd (ends.among '-' h) (by decide)

/-- What is written for a character that ends no line is within a line. -/
theorem within_raised {c : Char} (hc : ends.isEnd c = false) (raise : Bool) :
    ends.Within (raised raise c) := by
  intro b hb
  rw [← Bool.not_eq_true]
  intro hend
  have hcb : c = b := eq_of_mem_raised (isCaseless_of_isEnd hend) hb
  rw [hcb, hend] at hc
  exact nomatch hc

/-- The lines of joined words are the joined words of each line, and behind the first line nothing is
raised before a hyphen. -/
theorem lines_joinWords {cs line : List Char} {others : List (List Char)} (raise : Bool)
    (h : ends.lines cs = line :: others) :
    ends.lines (joinWords raise cs) = joinWords raise line :: others.map (joinWords false) := by
  induction cs generalizing raise line others with
  | nil =>
    obtain ⟨rfl, rfl⟩ := List.cons.inj h
    rfl
  | cons c rest ih =>
    obtain ⟨line', others', hrest⟩ := Text.exists_piecesBy_eq_cons ends.isEnd rest
    cases hc : ends.isEnd c with
    | true =>
      have hne : c ≠ '-' := by
        rintro rfl
        rw [isEnd_hyphen] at hc
        exact nomatch hc
      rw [LineEnds.lines, Text.piecesBy_cons_of_pos hc, hrest] at h
      obtain ⟨rfl, rfl⟩ := List.cons.inj h
      rw [joinWords_cons_of_ne hne, raised_of_isCaseless (isCaseless_of_isEnd hc), LineEnds.lines,
        List.singleton_append, Text.piecesBy_cons_of_pos hc]
      exact congrArg ([] :: ·) (ih false hrest)
    | false =>
      rw [LineEnds.lines, Text.piecesBy_cons_of_neg hc hrest] at h
      obtain ⟨rfl, rfl⟩ := List.cons.inj h
      by_cases hne : c = '-'
      · subst hne
        rw [joinWords_hyphen, joinWords_hyphen]
        exact ih true hrest
      · rw [joinWords_cons_of_ne hne, joinWords_cons_of_ne hne]
        exact Text.piecesBy_append_left (within_raised hc raise) (ih false hrest)

end

/-! ## Marks at the beginning -/

/-- A mark of characters without case begins the joined words exactly if it begins the text without
its hyphens. -/
theorem isPrefix_joinWords_iff {mark : List Char} (hmark : ∀ b ∈ mark, isCaseless b = true)
    (raise : Bool) (cs : List Char) :
    mark <+: joinWords raise cs ↔ mark <+: cs.filter (· ≠ '-') := by
  induction cs generalizing mark raise with
  | nil => rfl
  | cons c rest ih =>
    by_cases hc : c = '-'
    · subst hc
      rw [joinWords_hyphen, List.filter_cons_of_neg (by decide)]
      exact ih hmark true
    · rw [joinWords_cons_of_ne hc, List.filter_cons_of_pos (by simpa using hc)]
      cases mark with
      | nil => exact iff_of_true List.nil_prefix List.nil_prefix
      | cons b others =>
        obtain ⟨hb, hothers⟩ := List.forall_mem_cons.mp hmark
        by_cases hbc : b = c
        · subst hbc
          rw [raised_of_isCaseless hb, List.singleton_append, List.cons_prefix_cons,
            List.cons_prefix_cons, ih hothers false]
        · -- Neither text begins with the first character of the mark.
          refine iff_of_false (fun hprefix => ?_) fun hprefix => ?_
          · obtain ⟨u, others', hraised⟩ := List.exists_cons_of_ne_nil (raised_ne_nil raise c)
            rw [hraised, List.cons_append, List.cons_prefix_cons] at hprefix
            have hmem : b ∈ raised raise c := by
              rw [hraised, hprefix.1]
              exact List.mem_cons_self
            exact hbc (eq_of_mem_raised hb hmem).symm
          · exact hbc (List.cons_prefix_cons.mp hprefix).1

/-! ## The vocabulary -/

/-- Two names of the vocabulary have different identifiers. -/
theorem identifier_injOn_vocabulary {name name' : String} (h : name ∈ vocabulary)
    (h' : name' ∈ vocabulary) (heq : identifier name = identifier name') : name = name' := by
  have hnodup : (vocabulary.map identifier).Nodup := by decide
  exact List.inj_on_of_nodup_map hnodup h h' heq

/-- The identifier of a name of the vocabulary is a word of ASCII letters, and not the word that every
script imports. -/
theorem identifier_of_mem_vocabulary {name : String} (h : name ∈ vocabulary) :
    identifier name ≠ "" ∧ (∀ c ∈ (identifier name).toList, c.isAlpha = true) ∧
      identifier name ≠ "ref" := by
  have hall : ∀ name ∈ vocabulary, identifier name ≠ "" ∧
      (identifier name).toList.all Char.isAlpha = true ∧ identifier name ≠ "ref" := by
    decide
  obtain ⟨hne, hletters, href⟩ := hall name h
  exact ⟨hne, List.all_eq_true.mp hletters, href⟩

end PageSketch.Markup
