import QueryModel.Proofs.Query.Anonymous
import QueryModel.Proofs.Query.Negation

/-! # The distributed tree

Pushing negations down a tree yields one tree, up to the identities of its nodes: it is given here
by recursion on the tree, with neither a memory nor new nodes.
-/

namespace QueryModel

namespace Predicate

/-- The predicate, or its negation, with the negations distributed over it. -/
def distributed : Predicate → Bool → Predicate
  | .comparison id left operator right, negated =>
    .comparison id left (if negated then operator.complement else operator) right
  | .junction id left connective right, negated =>
    .junction id (left.distributed negated) (if negated then connective.dual else connective)
      (right.distributed negated)
  | .negation _ inner, negated => inner.distributed (!negated)
  | .nullness id operand wasNegated, negated => .nullness id operand (negated != wasNegated)
  | .between id operand lower upper wasNegated, negated =>
    .between id operand lower upper (negated != wasNegated)

theorem anonymous_distributed (predicate : Predicate) (negated : Bool) :
    (predicate.distributed negated).anonymous = predicate.anonymous.distributed negated := by
  induction predicate generalizing negated with
  | comparison id left operator right => rfl
  | junction id left connective right ihleft ihright =>
    simp only [distributed, anonymous, ihleft, ihright]
  | negation id inner ih => exact ih _
  | nullness id operand wasNegated => rfl
  | between id operand lower upper wasNegated => rfl

end Predicate

/-- What becomes of a predicate is its distributed tree, up to identities. -/
theorem Pushed.anonymous_eq {predicate result : Predicate} {negated : Bool}
    (hpushed : Pushed predicate negated result) :
    result.anonymous = (predicate.distributed negated).anonymous := by
  induction hpushed with
  | keepComparison => rfl
  | turnComparison => rfl
  | keepJunction id connective hleft hright ihleft ihright =>
    simp only [Predicate.distributed, Predicate.anonymous, ← ihleft, ← ihright, if_false,
      Bool.false_eq_true]
  | newJunction id fresh connective hleft hright hnew ihleft ihright =>
    simp only [Predicate.distributed, Predicate.anonymous, ihleft, ihright]
  | negation id hinner ih => exact ih
  | keepNullness id operand wasNegated => cases wasNegated <;> rfl
  | turnNullness id fresh operand wasNegated => cases wasNegated <;> rfl
  | keepBetween id operand lower upper wasNegated => cases wasNegated <;> rfl
  | turnBetween id fresh operand lower upper wasNegated => cases wasNegated <;> rfl

end QueryModel
