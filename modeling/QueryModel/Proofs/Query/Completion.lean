import Mathlib.Data.List.Forall2
import QueryModel.Query.Evaluation

/-! # Completing bindings

What is null may be known later. A truth value that is decided while some values are still null
stays what it is when they become known, whatever they turn out to be, as long as no part of the
predicate asks whether a value is null. Main statement: a predicate without tests for null that
holds, or fails, does so under all bindings that complete the given ones.
-/

namespace QueryModel

/-- `value.CompletedBy later`: a null may become any value, and what is known stays. -/
inductive Value.CompletedBy : Value → Value → Prop
  | null (later : Value) : CompletedBy .null later
  | refl (value : Value) : CompletedBy value value

/-- `truth.CompletedBy later`: what is unknown may become any truth value, and what is decided
stays. -/
inductive Truth.CompletedBy : Truth → Truth → Prop
  | unknown (later : Truth) : CompletedBy .unknown later
  | refl (truth : Truth) : CompletedBy truth truth

/-- Other bindings give the same value to every attribute and every parameter that has one, and any
value to those that are null. -/
structure Bindings.CompletedBy (bindings other : Bindings) : Prop where
  path_eq : ∀ aliasName attributeName, bindings.path aliasName attributeName ≠ .null →
    other.path aliasName attributeName = bindings.path aliasName attributeName
  parameter_eq : ∀ supplied, bindings.parameter supplied ≠ .null →
    other.parameter supplied = bindings.parameter supplied

/-- Whether there is a test for null in a predicate. -/
def Predicate.hasNullness : Predicate → Bool
  | .comparison _ _ _ _ => false
  | .junction _ left _ right => left.hasNullness || right.hasNullness
  | .negation _ inner => inner.hasNullness
  | .nullness _ _ _ => true
  | .between _ _ _ _ _ => false

/-! ## Truth values -/

namespace Truth

theorem and_fails (truth : Truth) : truth.and .fails = .fails := by
  cases truth <;> rfl

namespace CompletedBy

variable {truth later left newLeft right newRight : Truth}

theorem eq_of_ne_unknown (hcompleted : truth.CompletedBy later) (hdecided : truth ≠ .unknown) :
    later = truth := by
  cases hcompleted with
  | unknown => exact (hdecided rfl).elim
  | refl => rfl

theorem not (hcompleted : truth.CompletedBy later) : truth.not.CompletedBy later.not := by
  cases hcompleted with
  | unknown => exact .unknown _
  | refl => exact .refl _

theorem negateIf (hcompleted : truth.CompletedBy later) (negated : Bool) :
    (truth.negateIf negated).CompletedBy (later.negateIf negated) := by
  cases negated with
  | false => exact hcompleted
  | true => exact hcompleted.not

/-- A conjunction that is decided although one side is unknown fails by the other side. -/
theorem and (hleft : left.CompletedBy newLeft) (hright : right.CompletedBy newRight) :
    (left.and right).CompletedBy (newLeft.and newRight) := by
  cases hleft with
  | unknown newLeft =>
    cases hright with
    | unknown newRight => exact .unknown _
    | refl right =>
      cases right with
      | fails =>
        rw [and_fails, and_fails]
        exact .refl _
      | holds => exact .unknown _
      | unknown => exact .unknown _
  | refl left =>
    cases hright with
    | unknown newRight =>
      cases left with
      | fails => exact .refl _
      | holds => exact .unknown _
      | unknown => exact .unknown _
    | refl right => exact .refl _

theorem or (hleft : left.CompletedBy newLeft) (hright : right.CompletedBy newRight) :
    (left.or right).CompletedBy (newLeft.or newRight) := by
  have hnot := (hleft.not.and hright.not).not
  simpa only [not_and, not_not] using hnot

end CompletedBy

end Truth

/-! ## Values -/

namespace Value.CompletedBy

variable {left newLeft right newRight : Value}

theorem of_ne_null (hsame : left ≠ .null → newLeft = left) : left.CompletedBy newLeft := by
  by_cases hnull : left = .null
  · rw [hnull]
    exact .null newLeft
  · rw [hsame hnull]
    exact .refl left

/-- A comparison with a null is unknown, and any other one stays what it is. -/
theorem compared (hleft : left.CompletedBy newLeft) (hright : right.CompletedBy newRight)
    (operator : Operator) :
    (left.compared operator right).CompletedBy (newLeft.compared operator newRight) := by
  cases hleft with
  | null newLeft =>
    have hunknown : Value.null.compared operator right = .unknown := if_pos (.inl rfl)
    rw [hunknown]
    exact .unknown _
  | refl left =>
    cases hright with
    | null newRight =>
      have hunknown : left.compared operator .null = .unknown := if_pos (.inr rfl)
      rw [hunknown]
      exact .unknown _
    | refl right => exact .refl _

theorem isAmong (hleft : left.CompletedBy newLeft) {others newOthers : List Value}
    (hothers : List.Forall₂ CompletedBy others newOthers) :
    (left.isAmong others).CompletedBy (newLeft.isAmong newOthers) := by
  -- The truth value so far is carried along in both folds, and the one may be decided later only.
  have hfold {truth later : Truth} (htruth : truth.CompletedBy later) :
      (others.foldl (fun truth other => truth.or (left.compared .equals other)) truth).CompletedBy
        (newOthers.foldl (fun truth other => truth.or (newLeft.compared .equals other)) later) := by
    induction hothers generalizing truth later with
    | nil => exact htruth
    | cons hother _ ih => exact ih (htruth.or (hleft.compared hother .equals))
  exact hfold (.refl _)

end Value.CompletedBy

/-! ## Predicates -/

namespace Bindings.CompletedBy

variable {bindings other : Bindings}

theorem refl (bindings : Bindings) : bindings.CompletedBy bindings where
  path_eq _ _ _ := rfl
  parameter_eq _ _ := rfl

/-- An attribute that has no value may be given one. -/
theorem withPath (hcompleted : bindings.CompletedBy other) {aliasName attributeName : String}
    (hnull : bindings.path aliasName attributeName = .null) (value : Value) :
    bindings.CompletedBy (other.withPath aliasName attributeName value) where
  path_eq otherAlias otherName hknown := by
    have hother : ¬(otherAlias = aliasName ∧ otherName = attributeName) := by
      rintro ⟨rfl, rfl⟩
      exact hknown hnull
    have hkept : (other.withPath aliasName attributeName value).path otherAlias otherName =
        other.path otherAlias otherName := if_neg hother
    exact hkept.trans (hcompleted.path_eq otherAlias otherName hknown)
  parameter_eq := hcompleted.parameter_eq

/-- A parameter that has no value may be given one. -/
theorem withParameter (hcompleted : bindings.CompletedBy other) {supplied : Parameter}
    (hnull : bindings.parameter supplied = .null) (value : Value) :
    bindings.CompletedBy (other.withParameter supplied value) where
  path_eq := hcompleted.path_eq
  parameter_eq another hknown := by
    have hother : another ≠ supplied := by
      rintro rfl
      exact hknown hnull
    have hkept : (other.withParameter supplied value).parameter another =
        other.parameter another := if_neg hother
    exact hkept.trans (hcompleted.parameter_eq another hknown)

theorem value (hcompleted : bindings.CompletedBy other) (scalar : Scalar) :
    (scalar.value bindings).CompletedBy (scalar.value other) := by
  unfold Scalar.value
  split
  · exact .refl _
  · exact .of_ne_null (hcompleted.parameter_eq _)
  · exact .of_ne_null (hcompleted.path_eq _ _)

theorem values (hcompleted : bindings.CompletedBy other) (scalars : List Scalar) :
    List.Forall₂ Value.CompletedBy (scalars.map (Scalar.value bindings))
      (scalars.map (Scalar.value other)) := by
  rw [List.forall₂_map_left_iff, List.forall₂_map_right_iff, List.forall₂_same]
  exact fun scalar _ => hcompleted.value scalar

theorem compared (hcompleted : bindings.CompletedBy other) {left newLeft : Value}
    (hleft : left.CompletedBy newLeft) (operator : Operator) (right : Expression) :
    (right.compared bindings left operator).CompletedBy
      (right.compared other newLeft operator) := by
  cases right with
  | scalar node => exact hleft.compared (hcompleted.value node) operator
  | list values =>
    have hamong := hleft.isAmong (hcompleted.values values.elements)
    cases operator with
    | isIn => exact hamong
    | notIn => exact hamong.not
    | _ => exact .unknown _

/-- A predicate without tests for null becomes decided, if it changes, when more becomes known. -/
theorem evaluate (hcompleted : bindings.CompletedBy other) {predicate : Predicate}
    (hnone : predicate.hasNullness = false) :
    (predicate.evaluate bindings).CompletedBy (predicate.evaluate other) := by
  induction predicate with
  | comparison id left operator right =>
    exact hcompleted.compared (hcompleted.value left) operator right
  | junction id left connective right ihleft ihright =>
    obtain ⟨hleft, hright⟩ := Bool.or_eq_false_iff.mp hnone
    cases connective with
    | and => exact (ihleft hleft).and (ihright hright)
    | or => exact (ihleft hleft).or (ihright hright)
  | negation id inner ih => exact (ih hnone).not
  | nullness id operand negated => cases hnone
  | between id operand lower upper negated =>
    have hoperand := hcompleted.value operand
    have habove := hoperand.compared (hcompleted.value lower) .greaterThanOrEqual
    have hbelow := hoperand.compared (hcompleted.value upper) .lessThanOrEqual
    exact (habove.and hbelow).negateIf negated

end Bindings.CompletedBy

namespace Predicate

/-- A predicate without tests for null that is decided under some bindings has the same truth value
under all bindings that complete them. -/
theorem evaluate_eq_of_completedBy {predicate : Predicate}
    (hnone : predicate.hasNullness = false) {bindings other : Bindings}
    (hcompleted : bindings.CompletedBy other)
    (hdecided : predicate.evaluate bindings ≠ .unknown) :
    predicate.evaluate other = predicate.evaluate bindings :=
  (hcompleted.evaluate hnone).eq_of_ne_unknown hdecided

/-- An age that is not between two bounds, of which one is supplied, or a name that is not in a
list, of which one is supplied too. -/
def outsideBounds : Predicate :=
  .junction 10 (.negation 4 (.between 3 ⟨0, .integer, none, .path ⟨"user", "u"⟩ "age"⟩
      ⟨1, .integer, none, .literal (.integer 18)⟩
      ⟨2, .integer, none, .parameter (.named "limit")⟩ false)) .or
    (.comparison 9 ⟨5, .text, none, .path ⟨"user", "u"⟩ "name"⟩ .notIn
      (.list ⟨8, .text, none,
        [⟨6, .text, none, .literal (.string "Ann")⟩,
          ⟨7, .text, none, .parameter (.positional 1)⟩]⟩))

/-- An age below the lower bound is outside, and no upper bound, not even one that is no number,
makes a difference. -/
theorem evaluate_eq_outsideBounds :
    let bindings := Bindings.empty.withPath "u" "age" (.integer 12)
    let other := (bindings.withPath "u" "name" (.string "Ann")).withParameter (.named "limit")
      (.string "none")
    outsideBounds.hasNullness = false ∧ bindings.CompletedBy other ∧
      outsideBounds.evaluate bindings ≠ .unknown ∧ outsideBounds.evaluate other = .holds := by
  intro bindings other
  have hnone : outsideBounds.hasNullness = false := rfl
  have hcompleted : bindings.CompletedBy other :=
    ((Bindings.CompletedBy.refl bindings).withPath rfl _).withParameter rfl _
  have hholds : outsideBounds.evaluate bindings = .holds := by decide
  have hdecided : outsideBounds.evaluate bindings ≠ .unknown := by
    rw [hholds]
    exact Truth.noConfusion
  exact ⟨hnone, hcompleted, hdecided,
    (evaluate_eq_of_completedBy hnone hcompleted hdecided).trans hholds⟩

/-- A test for null holds of a value only as long as the value is not known. -/
example :
    let missing : Predicate := .nullness 1 ⟨0, .integer, none, .path ⟨"user", "u"⟩ "age"⟩ false
    missing.evaluate .empty = .holds ∧
      missing.evaluate (Bindings.empty.withPath "u" "age" (.integer 12)) = .fails := by
  decide

end Predicate

end QueryModel
