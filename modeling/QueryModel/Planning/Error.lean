import QueryModel.Json.Printer
import QueryModel.Query.Building

/-! # Planning errors

Why a request cannot be planned.
-/

namespace QueryModel

/-- What queries cannot contain. -/
inductive Unsupported where
  | arrayValues
  | objectValues
  /-- An operator without a counterpart in the dialect. -/
  | operatorInDialect (operator : Operator)
  | listOnTheRightOf (operator : Operator)
deriving DecidableEq

/-- What is not supported, as it is named in a message. -/
def Unsupported.text : Unsupported → String
  | .arrayValues => "array values"
  | .objectValues => "object values"
  | .operatorInDialect operator =>
    "the operator '" ++ operator.name ++ "' in the bigquery dialect"
  | .listOnTheRightOf operator => "a list of values on the right of '" ++ operator.name ++ "'"

/-- Why a request cannot be planned. -/
inductive PlanError where
  | entityNotFound (entity : String)
  | attributeNotFound (attributeName entity : String)
  | unknownRootAlias (aliasName root : String)
  | operatorNotSupported (operator : Operator) (type : ScalarType)
  | typeMismatch (value : Json) (type : ScalarType)
  | notSupported (what : Unsupported)
  | construction (error : ConstructionError)

/-- The message of a planning error. -/
def PlanError.message : PlanError → String
  | .entityNotFound entity => "Entity '" ++ entity ++ "' not found."
  | .attributeNotFound attributeName entity =>
    "Attribute '" ++ attributeName ++ "' not found in entity '" ++ entity ++ "'."
  | .unknownRootAlias aliasName root =>
    "Alias '" ++ aliasName ++ "' does not refer to the query root '" ++ root ++ "'."
  | .operatorNotSupported operator type =>
    "Operator '" ++ operator.name ++ "' is not supported for type '" ++ type.name ++ "'."
  | .typeMismatch value type =>
    "Value '" ++ value.compact ++ "' is not compatible with type '" ++ type.name ++ "'."
  | .notSupported what => "Queries containing " ++ what.text ++ " are not supported."
  | .construction error => "Malformed query: " ++ error.message

end QueryModel
