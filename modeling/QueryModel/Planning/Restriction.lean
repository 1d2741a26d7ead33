import QueryModel.Configuration.Basic
import QueryModel.Planning.Analysis
import QueryModel.Sql.Expression

/-! # Restrictions

A predicate over a root as a boolean SQL expression over the table of the root. Tests for null of a
column that holds none are decided here.
-/

namespace QueryModel

/-- What a predicate is translated under. -/
structure TableContext where
  catalog : Catalog
  dialect : Dialect
  root : Root
  /-- The name that the statement gives to the table of the root. -/
  tableAlias : String

namespace TableContext

/-- A value in a statement. -/
def literal : Value → Sql.Value
  | .null => .null
  | .boolean value => .boolean value
  | .integer n => .integer n
  | .float x => .float x
  | .string text => .string text

/-- A parameter in a statement. -/
def parameter : Parameter → Sql.Value
  | .named name => .variable name
  | .positional position => .positional position

/-- The column of an attribute of the root. -/
def column (context : TableContext) (root : Root) (attributeName : String) :
    Except PlanError Sql.Expression := do
  if root = context.root then
    let known ← context.catalog.attributeOf root.entity attributeName
    return .column (.aliased context.tableAlias) known.columnName
  else .error (.unknownRootAlias root.aliasName context.root.aliasName)

/-- A scalar in a statement. -/
def scalar (context : TableContext) (scalar : Scalar) : Except PlanError Sql.Expression :=
  match scalar.source with
  | .literal value => .ok (.value (literal value))
  | .parameter supplied => .ok (.value (parameter supplied))
  | .path root attributeName => context.column root attributeName

/-- A comparison with an expression. -/
def comparison (context : TableContext) (left : Sql.Expression) (operator : Operator) :
    Expression → Except PlanError Sql.Expression
  | .scalar right => do return .binary left operator.sql (← context.scalar right)
  | .list right => do
    let items ← right.elements.mapM context.scalar
    match operator with
    | .isIn => return .membership left false items
    | .notIn => return .membership left true items
    | _ => .error (.notSupported (.listOnTheRightOf operator))

/-- Whether a scalar is the attribute of a column that holds no nulls. -/
def isNeverNull (context : TableContext) (scalar : Scalar) : Except PlanError Bool :=
  match scalar.source with
  | .path root attributeName => do
    let known ← context.catalog.attributeOf root.entity attributeName
    return !known.nullable
  | .literal _ => .ok false
  | .parameter _ => .ok false

/-- A test for null. -/
def nullness (context : TableContext) (operand : Scalar) (negated : Bool) :
    Except PlanError Sql.Expression := do
  let expression ← context.scalar operand
  if ← context.isNeverNull operand then
    return if negated then .always else .never
  else return .nullness expression negated

/-- A predicate in a statement. -/
def predicate (context : TableContext) : Predicate → Except PlanError Sql.Expression
  | .comparison _ left operator right => do
    if context.dialect.supports operator then
      let left ← context.scalar left
      context.comparison left operator right
    else .error (.notSupported (.operatorInDialect operator))
  | .junction _ left connective right => do
    let left ← context.predicate left
    let right ← context.predicate right
    return match connective with
      | .and => .and left right
      | .or => .or left right
  | .negation _ inner => return .not (← context.predicate inner)
  | .nullness _ operand negated => context.nullness operand negated
  | .between _ operand lower upper negated => do
    let operand ← context.scalar operand
    let lower ← context.scalar lower
    let upper ← context.scalar upper
    return .between operand lower upper negated

end TableContext

end QueryModel
