import QueryModel.Json.Printer
import QueryModel.Request.Basic

/-! # Writing requests

A request as a JSON value. What is absent is left out, and the kind of a condition or an operand
stands first.
-/

namespace QueryModel.Request

/-- The members of an alias, if there is one. -/
def aliasMembers : Option String → List (String × Json)
  | none => []
  | some name => [("alias", .string name)]

/-- A parameter as a JSON value. -/
def parameterJson : Parameter → Json
  | .named name => .singleton "named" (.string name)
  | .positional position => .singleton "positional" (.ofNat position)

mutual

/-- An operand as a JSON value. -/
def Operand.toJson : Operand → Json
  | .column name aliasName =>
    .object ([("type", .string "column"), ("name", .string name)] ++ aliasMembers aliasName)
  | .scalar value => .object [("type", .string "scalar"), ("value", value)]
  | .parameter parameter =>
    .object [("type", .string "parameter"), ("parameter", parameterJson parameter)]
  | .list operands =>
    .object [("type", .string "list"), ("values", .array (operandsToJson operands))]
termination_by structural operand => operand

/-- Operands as JSON values. -/
def operandsToJson : List Operand → List Json
  | [] => []
  | operand :: rest => operand.toJson :: operandsToJson rest
termination_by structural operands => operands

end

mutual

/-- A condition as a JSON value. -/
def Condition.toJson : Condition → Json
  | .and conditions =>
    .object [("type", .string "and"), ("expressions", .array (conditionsToJson conditions))]
  | .or conditions =>
    .object [("type", .string "or"), ("expressions", .array (conditionsToJson conditions))]
  | .not condition => .object [("type", .string "not"), ("expression", condition.toJson)]
  | .comparison left operator right =>
    .object [("type", .string "binary_comparison"), ("left", left.toJson),
      ("operator", .string operator.name), ("right", right.toJson)]
  | .isNull operand negated =>
    .object [("type", .string "is_null"), ("value", operand.toJson),
      ("negated", .boolean negated)]
  | .between operand lower upper negated =>
    .object [("type", .string "between"), ("value", operand.toJson), ("lower", lower.toJson),
      ("upper", upper.toJson), ("negated", .boolean negated)]
termination_by structural condition => condition

/-- Conditions as JSON values. -/
def conditionsToJson : List Condition → List Json
  | [] => []
  | condition :: rest => condition.toJson :: conditionsToJson rest
termination_by structural conditions => conditions

end

/-- A request as a JSON value. -/
def toJson (request : Request) : Json :=
  .object ([("entity", .string request.entity), ("alias", .string request.aliasName)] ++
    match request.predicate with
    | none => []
    | some condition => [("predicate", condition.toJson)])

/-- The compact text of a request. -/
def write (request : Request) : String := request.toJson.compact

end QueryModel.Request
