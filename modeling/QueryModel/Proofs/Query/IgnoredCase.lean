import QueryModel.Proofs.Query.Patterns

/-! # Patterns without regard to case

Text and pattern are put into lowercase as wholes before they are matched without regard to case. The
capital I with a dot becomes two characters then, which an underscore does not stand for, and a
capital sigma may end a word in the pattern where it ends none in the text. Main statement: apart
from these two letters, a text that matches a pattern also matches it without regard to case.
-/

namespace QueryModel

namespace Unicode

/-! ## Lowercase text -/

theorem exists_lowerChar_eq {c : Char} (hc : c ≠ 'İ') : ∃ lower, lowerChar c = [lower] := by
  unfold lowerChar
  rw [if_neg hc]
  dsimp only
  split <;> exact ⟨_, rfl⟩

/-- What stands behind a piece of text has a lowercase form of its own, which depends on the piece. -/
theorem lowerAfter_suffix (before piece rest : List Char) :
    lowerAfter (piece.reverse ++ before) rest <:+ lowerAfter before (piece ++ rest) := by
  induction piece generalizing before with
  | nil => exact List.suffix_rfl
  | cons c piece ih =>
    have hbehind := ih (c :: before)
    rw [List.reverse_cons, List.append_assoc, List.singleton_append]
    exact hbehind.trans (List.suffix_append _ _)

/-- Without a capital sigma, every character has its lowercase form wherever it stands. -/
theorem lowerAfter_eq_flatMap {text : List Char} (before : List Char) (hsigma : 'Σ' ∉ text) :
    lowerAfter before text = text.flatMap lowerChar := by
  induction text generalizing before with
  | nil => rfl
  | cons c text ih =>
    rw [List.mem_cons, not_or] at hsigma
    rw [lowerAfter, if_neg (Ne.symm hsigma.1), ih _ hsigma.2, List.flatMap_cons]

end Unicode

namespace Value

section matching

variable {text pattern : List Char}

/-- Characters match themselves, wildcards included. -/
theorem likeMatches_append (shared : List Char) (hmatches : likeMatches text pattern) :
    likeMatches (shared ++ text) (shared ++ pattern) := by
  induction shared with
  | nil => exact hmatches
  | cons c shared ih =>
    refine likeMatches_cons.mpr ⟨[c], shared ++ text, rfl, ?_, ih⟩
    unfold StandsFor
    split
    · trivial
    · split
      · exact ⟨c, rfl⟩
      · rfl

/-- A text that matches a pattern does so in lowercase, if no underscore has to stand for a letter
that becomes two characters and the pattern has no letter that depends on what is around it. -/
theorem likeMatches_lowerAfter (before : List Char) (hsigma : 'Σ' ∉ pattern)
    (hdotted : 'İ' ∉ text ∨ '_' ∉ pattern) (hmatches : likeMatches text pattern) :
    likeMatches (Unicode.lowerAfter before text) (pattern.flatMap Unicode.lowerChar) := by
  have hpercent : Unicode.lowerChar '%' = ['%'] := by decide
  have hunderscore : Unicode.lowerChar '_' = ['_'] := by decide
  induction pattern generalizing text before with
  | nil =>
    rw [likeMatches, List.isEmpty_iff] at hmatches
    subst hmatches
    rfl
  | cons c pattern ih =>
    rw [List.mem_cons, not_or] at hsigma
    have hrest {piece rest : List Char} (hcut : piece ++ rest = text) :
        'İ' ∉ rest ∨ '_' ∉ pattern :=
      hdotted.imp (fun htext hrest => htext (hcut ▸ List.mem_append_right piece hrest))
        (fun hpattern hrest => hpattern (List.mem_cons_of_mem c hrest))
    obtain ⟨piece, rest, hcut, hpiece, hbehind⟩ := likeMatches_cons.mp hmatches
    have hlower := ih (piece.reverse ++ before) hsigma.2 (hrest hcut) hbehind
    rw [List.flatMap_cons]
    by_cases hwild : c = '%'
    · subst hwild hcut
      rw [hpercent]
      exact likeMatches_percent.mpr ⟨_, Unicode.lowerAfter_suffix before piece rest, hlower⟩
    by_cases hsingle : c = '_'
    · subst hsingle
      obtain ⟨any, rfl⟩ := standsFor_underscore.mp hpiece
      subst hcut
      have hany : any ≠ 'İ' := by
        rintro rfl
        exact hdotted.elim (fun htext => htext (List.mem_cons_self ..))
          (fun hpattern => hpattern (List.mem_cons_self ..))
      have hlowered : ∃ lower, Unicode.lowerAfter before (any :: rest) =
          lower :: Unicode.lowerAfter (any :: before) rest := by
        rw [Unicode.lowerAfter]
        split
        · exact ⟨_, rfl⟩
        · obtain ⟨lower, hlower⟩ := Unicode.exists_lowerChar_eq hany
          exact ⟨lower, by rw [hlower]; rfl⟩
      obtain ⟨lower, hlowered⟩ := hlowered
      rw [hunderscore]
      exact likeMatches_underscore.mpr ⟨lower, _, hlowered, hlower⟩
    · obtain rfl := (standsFor_iff_of_ne hwild hsingle).mp hpiece
      subst hcut
      rw [List.singleton_append, Unicode.lowerAfter, if_neg (Ne.symm hsigma.1)]
      exact likeMatches_append _ hlower

end matching

end Value

/-! ## Comparisons -/

/-- A comparison of a text with a pattern holds without regard to case when it holds with regard to
it, and fails with regard to case when it fails without. -/
def Scalar.LooserIgnoringCase (bindings : Bindings) (text pattern : Scalar) : Prop :=
  ∀ id : NodeId,
    ((Predicate.comparison id text .like (.scalar pattern)).evaluate bindings = .holds →
      (Predicate.comparison id text .ilike (.scalar pattern)).evaluate bindings = .holds) ∧
    ((Predicate.comparison id text .notIlike (.scalar pattern)).evaluate bindings = .holds →
      (Predicate.comparison id text .notLike (.scalar pattern)).evaluate bindings = .holds)

namespace Scalar

variable {bindings : Bindings} {left right : Scalar} {text pattern : String}

/-- Two comparisons of texts decide the two laws, for the others are their opposites. -/
theorem looserIgnoringCase_iff (hleft : left.value bindings = .string text)
    (hright : right.value bindings = .string pattern) :
    LooserIgnoringCase bindings left right ↔
      (Value.likeMatches text.toList pattern.toList →
        Value.likeMatches (Unicode.lowercase text.toList) (Unicode.lowercase pattern.toList)) := by
  simp only [LooserIgnoringCase, Predicate.evaluate, Expression.compared, hleft, hright,
    Value.compared, Value.like, reduceCtorEq, or_self, if_false, if_true, Bool.false_eq_true]
  rw [forall_const]
  cases Value.likeMatches text.toList pattern.toList <;>
    cases Value.likeMatches (Unicode.lowercase text.toList) (Unicode.lowercase pattern.toList) <;>
    decide

/-- A text that matches a pattern matches it without regard to case, unless the pattern has a
capital sigma, or an underscore for a text that has a capital I with a dot. -/
theorem looserIgnoringCase (hleft : left.value bindings = .string text)
    (hright : right.value bindings = .string pattern) (hsigma : 'Σ' ∉ pattern.toList)
    (hdotted : 'İ' ∉ text.toList ∨ '_' ∉ pattern.toList) :
    LooserIgnoringCase bindings left right := by
  rw [looserIgnoringCase_iff hleft hright]
  intro hmatches
  rw [Unicode.lowercase, Unicode.lowercase, Unicode.lowerAfter_eq_flatMap [] hsigma]
  exact Value.likeMatches_lowerAfter [] hsigma hdotted hmatches

/-- A scalar that is a text. -/
def ofText (text : String) : Scalar := ⟨0, .text, none, .literal (.string text)⟩

theorem looserIgnoringCase_sigmas : LooserIgnoringCase .empty (ofText "ΣΑΣ") (ofText "_Α%") :=
  looserIgnoringCase rfl rfl (by decide) (.inl (by decide))

/-- The second sigma of the pattern ends a word, and the one of the text does not; the capital I with
a dot becomes two characters. -/
theorem not_looserIgnoringCase :
    ¬ LooserIgnoringCase .empty (ofText "ΑΣΒ") (ofText "ΑΣ%") ∧
      ¬ LooserIgnoringCase .empty (ofText "İ") (ofText "_") := by
  rw [looserIgnoringCase_iff rfl rfl, looserIgnoringCase_iff rfl rfl]
  decide +kernel

end Scalar

end QueryModel
