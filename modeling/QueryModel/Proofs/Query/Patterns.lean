import Mathlib.Data.List.Forall2
import Mathlib.Data.List.Infix
import QueryModel.Query.Evaluation

/-! # Patterns

Every character of a pattern stands for a piece of text: a percent sign for any piece, an underscore
for any single character, and every other character for itself. Main statement: a text matches a
pattern exactly if it can be cut into pieces for which the characters of the pattern stand, one
after the other.
-/

namespace QueryModel

namespace Value

/-- `StandsFor c piece`: the character of a pattern stands for the piece of text. -/
def StandsFor (c : Char) (piece : List Char) : Prop :=
  if c = '%' then True
  else if c = '_' then ∃ any, piece = [any]
  else piece = [c]

theorem standsFor_percent (piece : List Char) : StandsFor '%' piece := trivial

@[simp]
theorem standsFor_underscore {piece : List Char} :
    StandsFor '_' piece ↔ ∃ any, piece = [any] := by
  simp [StandsFor]

theorem standsFor_iff_of_ne {c : Char} (hpercent : c ≠ '%') (hunderscore : c ≠ '_')
    {piece : List Char} : StandsFor c piece ↔ piece = [c] := by
  simp [StandsFor, hpercent, hunderscore]

theorem endings_eq_tails (text : List Char) : endings text = text.tails := by
  induction text with
  | nil => rfl
  | cons c rest ih => rw [endings, List.tails_cons, ih]

section cons

variable {text pattern : List Char}

theorem likeMatches_percent :
    likeMatches text ('%' :: pattern) ↔ ∃ rest, rest <:+ text ∧ likeMatches rest pattern := by
  rw [likeMatches, List.any_eq_true, endings_eq_tails]
  simp only [List.mem_tails]

theorem likeMatches_underscore :
    likeMatches text ('_' :: pattern) ↔
      ∃ any rest, text = any :: rest ∧ likeMatches rest pattern := by
  cases text with
  | nil => simp [likeMatches]
  | cons first rest => simp [likeMatches]

theorem likeMatches_cons_of_ne {c : Char} (hpercent : c ≠ '%') (hunderscore : c ≠ '_') :
    likeMatches text (c :: pattern) ↔ ∃ rest, text = c :: rest ∧ likeMatches rest pattern := by
  cases text with
  | nil => simp [likeMatches]
  | cons first rest => simp [likeMatches]

/-- The first character of a pattern stands for a piece at the front of the text, and what is left
of the text matches the others. -/
theorem likeMatches_cons {c : Char} :
    likeMatches text (c :: pattern) ↔
      ∃ piece rest, piece ++ rest = text ∧ StandsFor c piece ∧ likeMatches rest pattern := by
  -- A character is a percent sign, an underscore or neither, and each has its own rule.
  by_cases hpercent : c = '%'
  · subst hpercent
    rw [likeMatches_percent]
    constructor
    · rintro ⟨rest, ⟨piece, hcut⟩, hrest⟩
      exact ⟨piece, rest, hcut, standsFor_percent piece, hrest⟩
    · rintro ⟨piece, rest, hcut, -, hrest⟩
      exact ⟨rest, ⟨piece, hcut⟩, hrest⟩
  by_cases hunderscore : c = '_'
  · subst hunderscore
    rw [likeMatches_underscore]
    constructor
    · rintro ⟨any, rest, rfl, hrest⟩
      exact ⟨[any], rest, rfl, standsFor_underscore.mpr ⟨any, rfl⟩, hrest⟩
    · rintro ⟨piece, rest, rfl, hpiece, hrest⟩
      obtain ⟨any, rfl⟩ := standsFor_underscore.mp hpiece
      exact ⟨any, rest, rfl, hrest⟩
  · rw [likeMatches_cons_of_ne hpercent hunderscore]
    constructor
    · rintro ⟨rest, rfl, hrest⟩
      exact ⟨[c], rest, rfl, (standsFor_iff_of_ne hpercent hunderscore).mpr rfl, hrest⟩
    · rintro ⟨piece, rest, rfl, hpiece, hrest⟩
      obtain rfl := (standsFor_iff_of_ne hpercent hunderscore).mp hpiece
      exact ⟨rest, rfl, hrest⟩

end cons

/-- A text matches a pattern exactly if it can be cut into pieces, one for each character of the
pattern, for which these characters stand. -/
theorem likeMatches_iff_exists_pieces (text pattern : List Char) :
    likeMatches text pattern ↔
      ∃ pieces : List (List Char), pieces.flatten = text ∧
        List.Forall₂ StandsFor pattern pieces := by
  induction pattern generalizing text with
  | nil =>
    rw [likeMatches, List.isEmpty_iff]
    simp [eq_comm]
  | cons c pattern ih =>
    rw [likeMatches_cons]
    constructor
    · rintro ⟨piece, rest, rfl, hpiece, hrest⟩
      obtain ⟨pieces, rfl, hpieces⟩ := (ih rest).mp hrest
      exact ⟨piece :: pieces, rfl, .cons hpiece hpieces⟩
    · rintro ⟨_, rfl, hpieces⟩
      cases hpieces with
      | cons hpiece hpieces =>
        exact ⟨_, _, rfl, hpiece, (ih _).mpr ⟨_, rfl, hpieces⟩⟩

/-- An underscore behind a percent sign still asks for a character. -/
example : likeMatches [] ['%', '%'] = true ∧ likeMatches ['a', 'b'] ['%', '_', 'b'] = true ∧
    likeMatches ['b'] ['%', '_', 'b'] = false := by
  decide

end Value

end QueryModel
