import QueryModel.Json.Schema
import QueryModel.Request.Reading

/-! # The JSON schema of requests

The schema that describes the requests which can be read.
-/

namespace QueryModel.Request

/-- The schema of one kind of condition or operand: the members it has to have, and those it may
have besides. -/
def kindSchema (kind : String) (required optional : List (String × Json.Schema)) : Json.Schema :=
  .record ("type" :: required.map Prod.fst)
    (("type", .choice [kind]) :: (required ++ optional))

/-- The schema of the mark of a negated condition. -/
def negatedSchema : String × Json.Schema := ("negated", .defaulted (.boolean false) .truth)

/-- The schema of conditions. -/
def conditionSchema : Json.Schema :=
  let condition : Json.Schema := .reference "Expression"
  let operand : Json.Schema := .reference "ComparisonValue"
  .oneOf [
    kindSchema "and" [("expressions", .list condition)] [],
    kindSchema "or" [("expressions", .list condition)] [],
    kindSchema "not" [("expression", condition)] [],
    kindSchema "binary_comparison"
      [("left", operand), ("operator", .reference "ComparisonOperator"), ("right", operand)] [],
    kindSchema "is_null" [("value", operand)] [negatedSchema],
    kindSchema "between" [("lower", operand), ("upper", operand), ("value", operand)]
      [negatedSchema]]

/-- The schema of operands. -/
def operandSchema : Json.Schema :=
  .oneOf [
    kindSchema "column" [("name", .text)] [("alias", .nullable .text)],
    kindSchema "scalar" [("value", .anything)] [],
    kindSchema "parameter" [("parameter", .reference "ParameterReference")] [],
    kindSchema "list" [("values", .list (.reference "ComparisonValue"))] []]

/-- The schema of parameters. -/
def parameterSchema : Json.Schema :=
  .oneOf [
    .record ["named"] [("named", .text)],
    .record ["positional"] [("positional", .natural 32)]]

/-- The JSON schema of requests. -/
def jsonSchema : Json :=
  Json.Schema.titled "QueryRequest"
    (.record ["alias", "entity"]
      [("alias", .text), ("entity", .text), ("predicate", .nullable (.reference "Expression"))])
    [("ComparisonOperator", .choice (Operator.all.map Operator.name)),
      ("ComparisonValue", operandSchema),
      ("Expression", conditionSchema),
      ("ParameterReference", parameterSchema)]

end QueryModel.Request
