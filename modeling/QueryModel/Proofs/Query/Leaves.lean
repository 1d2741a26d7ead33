import Mathlib.Data.List.Induction
import QueryModel.Proofs.Query.Distributed
import QueryModel.Query.Parameters

/-! # Leaves

The single values in a predicate, from left to right. Neither the identities of its nodes nor the
place of its negations matter to them, and the parameters of a predicate are those among its leaves,
each listed where it stands first.
-/

namespace QueryModel

/-- The parameter that a scalar is, if it is one. -/
def Scalar.parameter? (scalar : Scalar) : Option Parameter :=
  match scalar.source with
  | .parameter supplied => some supplied
  | .literal _ => none
  | .path _ _ => none

theorem Scalar.collect_parameter? (met : List Parameter) (scalar : Scalar) :
    scalar.collect met =
      match scalar.parameter? with
      | some supplied => if supplied ∈ met then met else met ++ [supplied]
      | none => met := by
  unfold collect parameter?
  cases scalar.source <;> rfl

theorem eraseDups_append_singleton (met : List Parameter) (supplied : Parameter) :
    (met ++ [supplied]).eraseDups =
      if supplied ∈ met.eraseDups then met.eraseDups else met.eraseDups ++ [supplied] := by
  rw [List.eraseDups_append]
  by_cases hmet : supplied ∈ met
  · simp [List.removeAll, List.mem_eraseDups, hmet]
  · simp [List.removeAll, List.mem_eraseDups, hmet, List.eraseDups_cons]

/-- The parameters among scalars are collected without repeats, in the order in which they are
first met. -/
theorem foldl_collect_eq (scalars : List Scalar) :
    scalars.foldl Scalar.collect [] = (scalars.filterMap Scalar.parameter?).eraseDups := by
  induction scalars using List.reverseRecOn with
  | nil => rfl
  | append_singleton scalars scalar ih =>
    rw [List.foldl_append, List.foldl_cons, List.foldl_nil, ih, List.filterMap_append,
      Scalar.collect_parameter?]
    cases hsupplied : scalar.parameter? with
    | none => rw [List.filterMap_cons_none hsupplied, List.filterMap_nil, List.append_nil]
    | some supplied =>
      rw [List.filterMap_cons_some hsupplied, List.filterMap_nil, eraseDups_append_singleton]

namespace Expression

theorem collect_eq_foldl (expression : Expression) (met : List Parameter) :
    expression.collect met = expression.leaves.foldl Scalar.collect met := by
  cases expression <;> rfl

end Expression

namespace Predicate

theorem collect_eq_foldl (predicate : Predicate) (met : List Parameter) :
    predicate.collect met = predicate.leaves.foldl Scalar.collect met := by
  induction predicate generalizing met with
  | comparison id left operator right =>
    rw [collect, leaves, List.foldl_cons, right.collect_eq_foldl]
  | junction id left connective right ihleft ihright =>
    rw [collect, leaves, List.foldl_append, ihleft, ihright]
  | negation id inner ih => exact ih met
  | nullness id operand negated => rfl
  | between id operand lower upper negated => rfl

/-- The parameters of a predicate are those among its leaves, without repeats. -/
theorem parameters_eq (predicate : Predicate) :
    predicate.parameters = (predicate.leaves.filterMap Scalar.parameter?).eraseDups := by
  rw [parameters, collect_eq_foldl, foldl_collect_eq]

theorem leaves_distributed (predicate : Predicate) (negated : Bool) :
    (predicate.distributed negated).leaves = predicate.leaves := by
  induction predicate generalizing negated with
  | comparison id left operator right => rfl
  | junction id left connective right ihleft ihright =>
    rw [distributed, leaves, leaves, ihleft, ihright]
  | negation id inner ih => exact ih _
  | nullness id operand wasNegated => rfl
  | between id operand lower upper wasNegated => rfl

theorem leaves_anonymous (predicate : Predicate) :
    predicate.anonymous.leaves = predicate.leaves.map Scalar.anonymous := by
  induction predicate with
  | comparison id left operator right => cases right <;> rfl
  | junction id left connective right ihleft ihright =>
    rw [anonymous, leaves, leaves, List.map_append, ihleft, ihright]
  | negation id inner ih => exact ih
  | nullness id operand negated => rfl
  | between id operand lower upper negated => rfl

end Predicate

end QueryModel
