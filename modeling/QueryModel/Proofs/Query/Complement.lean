import QueryModel.Proofs.Query.Negation
import QueryModel.Query.Evaluation

/-! # Complements

The complement of an operator has the opposite truth value, whatever is compared: values of one
kind, values in no order, nulls, patterns and lists. With De Morgan's laws it follows that a
predicate with its negations pushed down means what it meant before.
-/

namespace QueryModel

namespace Truth

theorem negateIf_not (negated : Bool) (value : Truth) :
    negateIf (!negated) value = negateIf negated value.not := by
  cases negated <;> simp [negateIf]

theorem not_negateIf (negated : Bool) (value : Truth) :
    (negateIf negated value).not = negateIf negated value.not := by
  cases negated <;> rfl

end Truth

namespace Value

theorem allowsOrder_complement {operator : Operator} (hpattern : operator.isPattern = false)
    (hmulti : operator.isMultiValued = false) (order : Ordering) :
    allowsOrder operator.complement order = !allowsOrder operator order := by
  cases operator <;> cases hpattern <;> cases hmulti <;> cases order <;> rfl

theorem ordered_complement (operator : Operator) (hpattern : operator.isPattern = false)
    (hmulti : operator.isMultiValued = false) (left right : Value) :
    ordered operator.complement left right = (ordered operator left right).not := by
  unfold ordered
  split
  · rfl
  · rw [allowsOrder_complement hpattern hmulti, Truth.not_ofBool]

/-- The complement of an operator holds of two values exactly when the operator fails, and is
unknown exactly when the operator is. -/
theorem compared_complement (left right : Value) (operator : Operator) :
    left.compared operator.complement right = (left.compared operator right).not := by
  unfold compared
  split
  · rfl
  · cases operator with
    | like => rfl
    | ilike => rfl
    | notLike => exact (Truth.not_not _).symm
    | notIlike => exact (Truth.not_not _).symm
    | isIn => exact ordered_complement .equals rfl rfl left right
    | notIn => exact ordered_complement .notEquals rfl rfl left right
    | _ => exact ordered_complement _ rfl rfl left right

end Value

/-- A comparison with a list that is no test for membership is unknown, and so is its complement. -/
theorem Expression.compared_complement (bindings : Bindings) (left : Value) (operator : Operator)
    (right : Expression) :
    right.compared bindings left operator.complement =
      (right.compared bindings left operator).not := by
  cases right with
  | scalar node => exact left.compared_complement _ operator
  | list values =>
    cases operator with
    | isIn => rfl
    | notIn => exact (Truth.not_not _).symm
    | _ => rfl

/-- Pushing negations down a predicate keeps its truth value, or turns it around if the predicate
stands under an odd number of negations. -/
theorem Pushed.evaluate_eq {predicate result : Predicate} {negated : Bool}
    (hpushed : Pushed predicate negated result) (bindings : Bindings) :
    result.evaluate bindings = Truth.negateIf negated (predicate.evaluate bindings) := by
  induction hpushed with
  | keepComparison => rfl
  | turnComparison id fresh left operator right =>
    exact right.compared_complement bindings _ operator
  | keepJunction => rfl
  | @newJunction id fresh left right newLeft newRight negated connective hleft hright hnew ihleft
      ihright =>
    cases negated <;> cases connective <;>
      simp only [Predicate.evaluate, Truth.negateIf, Connective.dual, if_true, if_false, ihleft,
        ihright, Truth.not_and, Truth.not_or, Bool.false_eq_true]
  | negation id hinner ih => rw [ih, Truth.negateIf_not]; rfl
  | keepNullness => rfl
  | turnNullness id fresh operand wasNegated =>
    simp only [Predicate.evaluate, Truth.negateIf, if_true, Truth.not_ofBool, Bool.bne_not]
  | keepBetween => rfl
  | turnBetween id fresh operand lower upper wasNegated =>
    rw [Predicate.evaluate, Truth.negateIf_not, ← Truth.not_negateIf]
    rfl

end QueryModel
