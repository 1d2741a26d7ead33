import QueryModel.Catalog.Operator

/-! # Scalar types

The types of the values in a table, with their names and the comparisons each of them allows.
-/

namespace QueryModel

/-- A type of values. -/
inductive ScalarType where
  | boolean
  | smallint
  | integer
  | bigint
  | real
  | doublePrecision
  | numeric
  | character
  | characterVarying
  | text
  | json
  | date
  | timestampWithTimeZone
  | timestampWithoutTimeZone
  | uuid
  /-- The type of values about which nothing is known. -/
  | any
deriving DecidableEq

namespace ScalarType

/-- Every scalar type. -/
def all : List ScalarType :=
  [.boolean, .smallint, .integer, .bigint, .real, .doublePrecision, .numeric, .character,
    .characterVarying, .text, .json, .date, .timestampWithTimeZone, .timestampWithoutTimeZone,
    .uuid, .any]

/-- The name of a type, in configurations and in messages. -/
def name : ScalarType → String
  | .boolean => "boolean"
  | .smallint => "smallint"
  | .integer => "integer"
  | .bigint => "bigint"
  | .real => "real"
  | .doublePrecision => "double precision"
  | .numeric => "numeric"
  | .character => "character"
  | .characterVarying => "character varying"
  | .text => "text"
  | .json => "json"
  | .date => "date"
  | .timestampWithTimeZone => "timestamp with time zone"
  | .timestampWithoutTimeZone => "timestamp without time zone"
  | .uuid => "uuid"
  | .any => "any"

/-- The type of a name in a configuration. -/
def ofName? (name : String) : Option ScalarType := all.find? fun type => type.name == name

/-- Types whose values are written as quoted strings. -/
def isTextual : ScalarType → Bool
  | .character | .characterVarying | .text | .json | .date | .timestampWithTimeZone
  | .timestampWithoutTimeZone | .uuid => true
  | .boolean | .smallint | .integer | .bigint | .real | .doublePrecision | .numeric
  | .any => false

/-- Types whose values can be matched against a pattern. -/
def allowsPatterns : ScalarType → Bool
  | .character | .characterVarying | .text | .any => true
  | .boolean | .smallint | .integer | .bigint | .real | .doublePrecision | .numeric | .json
  | .date | .timestampWithTimeZone | .timestampWithoutTimeZone | .uuid => false

/-- The comparisons that a value of the type can stand on the left of. -/
def operators (type : ScalarType) : List Operator :=
  Operator.all.filter fun operator => !operator.isPattern || type.allowsPatterns

theorem mem_all (type : ScalarType) : type ∈ all := by
  cases type <;> decide

theorem ofName?_name (type : ScalarType) : ofName? type.name = some type := by
  cases type <;> decide

end ScalarType

end QueryModel
