import QueryModel.Proofs.Query.Alike
import QueryModel.Query.Parameters

/-! # Parameters of alike trees

The parameters of a predicate are among what is shown of it, so alike predicates have the same
parameters, in the same order.
-/

namespace QueryModel

/-- Add the parameter of a source, if it is one and was not met before. -/
def Source.collect (met : List Parameter) : Source → List Parameter
  | .parameter supplied => if supplied ∈ met then met else met ++ [supplied]
  | .literal _ => met
  | .path _ _ => met

theorem Scalar.collect_eq (met : List Parameter) (scalar : Scalar) :
    scalar.collect met = scalar.shown.collect met := by
  unfold collect shown
  cases scalar.source <;> rfl

theorem Expression.collect_eq (met : List Parameter) (expression : Expression) :
    expression.collect met = expression.shown.2.foldl Source.collect met := by
  have hleaves : expression.collect met = expression.leaves.foldl Scalar.collect met := by
    cases expression <;> rfl
  rw [hleaves, shown, List.foldl_map]
  congr 1
  exact funext fun met => funext fun scalar => scalar.collect_eq met

theorem Predicate.Alike.collect_eq {left right : Predicate} (halike : left.Alike right)
    (met : List Parameter) : left.collect met = right.collect met := by
  induction halike generalizing met with
  | comparison id other operator hleft hright =>
    simp only [collect, Scalar.collect_eq, Expression.collect_eq, hleft, hright]
  | junction id other connective hleft hright ihleft ihright =>
    simp only [collect, ihleft, ihright]
  | negation id other hinner ih => exact ih met
  | nullness id other negated hoperand => simp only [collect, Scalar.collect_eq, hoperand]
  | between id other negated hoperand hlower hupper =>
    simp only [collect, Scalar.collect_eq, hoperand, hlower, hupper]
  | regroup => rfl
  | symm _ ih => exact (ih met).symm
  | trans _ _ ihfirst ihsecond => exact (ihfirst met).trans (ihsecond met)

theorem parameters_eq_of_alike {left right : Option Predicate}
    (halike : Option.Rel Predicate.Alike left right) :
    (left.map Predicate.parameters).getD [] = (right.map Predicate.parameters).getD [] := by
  cases halike with
  | none => rfl
  | some halike => exact halike.collect_eq []

end QueryModel
