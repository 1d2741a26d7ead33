import QueryModel.Catalog.Operator
import QueryModel.Json.Basic
import QueryModel.Query.Value

/-! # Requests

A request names the entity to select from, the alias that its predicate calls the entity by, and a
condition if the selection is restricted.
-/

namespace QueryModel

namespace Request

/-- An operand of a condition. -/
inductive Operand where
  /-- An attribute of the entity. The alias may be left out. -/
  | column (name : String) (aliasName : Option String)
  | scalar (value : Json)
  | parameter (parameter : Parameter)
  /-- Several operands, on the right of a membership test. -/
  | list (operands : List Operand)

/-- A condition on the selected rows. -/
inductive Condition where
  | and (conditions : List Condition)
  | or (conditions : List Condition)
  | not (condition : Condition)
  | comparison (left : Operand) (operator : Operator) (right : Operand)
  | isNull (operand : Operand) (negated : Bool)
  | between (operand lower upper : Operand) (negated : Bool)

end Request

/-- A request. -/
structure Request where
  entity : String
  aliasName : String
  predicate : Option Request.Condition

end QueryModel
