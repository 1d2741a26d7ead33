import QueryModel.Query.Node

/-! # The parameters of a query

The parameters that have to be supplied for a predicate, each once, in the order in which they are
first met.
-/

namespace QueryModel

/-- Add the parameter of a scalar, if it is one and was not met before. -/
def Scalar.collect (met : List Parameter) (scalar : Scalar) : List Parameter :=
  match scalar.source with
  | .parameter parameter => if parameter ∈ met then met else met ++ [parameter]
  | .literal _ => met
  | .path _ _ => met

/-- Add the parameters of an expression. -/
def Expression.collect (met : List Parameter) : Expression → List Parameter
  | .scalar node => node.collect met
  | .list values => values.elements.foldl Scalar.collect met

/-- Add the parameters of a predicate. -/
def Predicate.collect (met : List Parameter) : Predicate → List Parameter
  | .comparison _ left _ right => right.collect (left.collect met)
  | .junction _ left _ right => right.collect (left.collect met)
  | .negation _ inner => inner.collect met
  | .nullness _ operand _ => operand.collect met
  | .between _ operand lower upper _ => upper.collect (lower.collect (operand.collect met))

/-- The parameters of a predicate. -/
def Predicate.parameters (predicate : Predicate) : List Parameter := predicate.collect []

end QueryModel
