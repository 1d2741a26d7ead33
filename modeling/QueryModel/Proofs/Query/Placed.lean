import Mathlib.Algebra.Ring.Parity
import QueryModel.Configuration.Basic
import QueryModel.Proofs.Query.Distributed

/-! # Operators and the negations above them

The operators of a predicate are those of its comparisons, from left to right, and each stands under
a number of negations. Main statement: where negations are distributed, the operators under an odd
number of them are turned into their complements, and all of them keep their places.
-/

namespace QueryModel

/-- The operator of a comparison, and the number of negations above it. -/
structure PlacedOperator where
  operator : Operator
  negations : Nat

/-- The operator that is left of a comparison: its complement if negations are distributed and an
odd number of them is above it. -/
def NegationStrategy.operatorOf (strategy : NegationStrategy) (placed : PlacedOperator) :
    Operator :=
  if strategy = .distribute ∧ Odd placed.negations then placed.operator.complement
  else placed.operator

@[simp]
theorem Operator.ignoresCase_complement (operator : Operator) :
    operator.complement.ignoresCase = operator.ignoresCase := by
  cases operator <;> rfl

theorem NegationStrategy.ignoresCase_operatorOf (strategy : NegationStrategy)
    (placed : PlacedOperator) :
    (strategy.operatorOf placed).ignoresCase = placed.operator.ignoresCase := by
  unfold operatorOf
  split
  · exact placed.operator.ignoresCase_complement
  · rfl

namespace Predicate

/-- The operators of the comparisons in a predicate, from left to right. -/
def operators : Predicate → List Operator
  | .comparison _ _ operator _ => [operator]
  | .junction _ left _ right => left.operators ++ right.operators
  | .negation _ inner => inner.operators
  | .nullness _ _ _ => []
  | .between _ _ _ _ _ => []

/-- The operators of a predicate that stands under a number of negations, from left to right. -/
def placedOperators : Predicate → Nat → List PlacedOperator
  | .comparison _ _ operator _, negations => [⟨operator, negations⟩]
  | .junction _ left _ right, negations =>
    left.placedOperators negations ++ right.placedOperators negations
  | .negation _ inner, negations => inner.placedOperators (negations + 1)
  | .nullness _ _ _, _ => []
  | .between _ _ _ _ _, _ => []

/-- Membership tests have a list on their right, and other comparisons have none. -/
def IsShaped : Predicate → Prop
  | .comparison _ _ operator right => right.isList = operator.isMultiValued
  | .junction _ left _ right => left.IsShaped ∧ right.IsShaped
  | .negation _ inner => inner.IsShaped
  | .nullness _ _ _ => True
  | .between _ _ _ _ _ => True

theorem operators_eq_map (predicate : Predicate) (negations : Nat) :
    predicate.operators =
      (predicate.placedOperators negations).map NegationStrategy.wrap.operatorOf := by
  induction predicate generalizing negations with
  | comparison id left operator right => rfl
  | junction id left connective right ihleft ihright =>
    rw [operators, placedOperators, List.map_append, ← ihleft, ← ihright]
  | negation id inner ih => exact ih _
  | nullness id operand negated => rfl
  | between id operand lower upper negated => rfl

/-- Under an odd number of negations, operators are turned into their complements. -/
theorem operators_distributed (predicate : Predicate) (negations : Nat) :
    (predicate.distributed (decide (Odd negations))).operators =
      (predicate.placedOperators negations).map NegationStrategy.distribute.operatorOf := by
  induction predicate generalizing negations with
  | comparison id left operator right =>
    simp [distributed, operators, placedOperators, NegationStrategy.operatorOf]
  | junction id left connective right ihleft ihright =>
    rw [distributed, operators, placedOperators, List.map_append, ihleft, ihright]
  | negation id inner ih =>
    have hparity : (!decide (Odd negations)) = decide (Odd (negations + 1)) := by
      rw [← decide_not]
      exact decide_eq_decide.mpr Nat.odd_add_one.symm
    rw [distributed, hparity]
    exact ih _
  | nullness id operand wasNegated => rfl
  | between id operand lower upper wasNegated => rfl

theorem isShaped_distributed {predicate : Predicate} (hshaped : predicate.IsShaped)
    (negated : Bool) : (predicate.distributed negated).IsShaped := by
  induction predicate generalizing negated with
  | comparison id left operator right =>
    cases negated with
    | false => exact hshaped
    | true => exact hshaped.trans operator.isMultiValued_complement.symm
  | junction id left connective right ihleft ihright =>
    exact ⟨ihleft hshaped.1 negated, ihright hshaped.2 negated⟩
  | negation id inner ih => exact ih hshaped _
  | nullness id operand wasNegated => trivial
  | between id operand lower upper wasNegated => trivial

end Predicate

end QueryModel
