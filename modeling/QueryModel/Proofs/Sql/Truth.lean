import QueryModel.Catalog.Operator
import QueryModel.Query.Evaluation
import QueryModel.Sql.Expression

/-! # What a selection selects

The three-valued logic of SQL: a condition that cannot be decided is null, and a row is selected
where the condition is true. Operators on values compare as they do in a query tree.
-/

namespace QueryModel

/-- A truth value as a value. -/
def Truth.value : Truth → Value
  | .holds => .boolean true
  | .fails => .boolean false
  | .unknown => .null

/-- A value as a truth value; only truth values are decided. -/
def Value.truth : Value → Truth
  | .boolean value => .ofBool value
  | _ => .unknown

@[simp]
theorem Truth.truth_value (truth : Truth) : truth.value.truth = truth := by
  cases truth <;> rfl

/-- The operator between two values that is written as a text in SQL. -/
def Operator.ofSql? : String → Option Operator
  | "=" => some .equals
  | "<>" => some .notEquals
  | "<" => some .lessThan
  | "<=" => some .lessThanOrEqual
  | ">" => some .greaterThan
  | ">=" => some .greaterThanOrEqual
  | "LIKE" => some .like
  | "NOT LIKE" => some .notLike
  | "ILIKE" => some .ilike
  | "NOT ILIKE" => some .notIlike
  | _ => none

/-- An operator between two values is spelled as it is read. -/
theorem Operator.ofSql?_sql {operator : Operator} (hmulti : operator.isMultiValued = false) :
    ofSql? operator.sql = some operator := by
  cases operator <;> cases hmulti <;> rfl

namespace Sql

/-- What a condition is decided in: the values of columns and of parameters. -/
structure Environment where
  column : TableReference → String → QueryModel.Value
  parameter : Parameter → QueryModel.Value

/-- The value of a value in a statement. -/
def Value.meaning (environment : Environment) : Value → QueryModel.Value
  | .integer n => .integer n
  | .float x => .float x
  | .boolean value => .boolean value
  | .string text => .string text
  | .null => .null
  | .variable name => environment.parameter (.named name)
  | .positional position => environment.parameter (.positional position)

/-- The truth value of an operator, by its text, between two values. -/
def compared (left : QueryModel.Value) (operator : String) (right : QueryModel.Value) : Truth :=
  match Operator.ofSql? operator with
  | none => .unknown
  | some operator => left.compared operator right

mutual

/-- The value of an expression. -/
def Expression.meaning (environment : Environment) : Expression → QueryModel.Value
  | .and left right =>
    ((left.meaning environment).truth.and (right.meaning environment).truth).value
  | .or left right =>
    ((left.meaning environment).truth.or (right.meaning environment).truth).value
  | .not operand => (operand.meaning environment).truth.not.value
  | .binary left operator right =>
    (compared (left.meaning environment) operator (right.meaning environment)).value
  | .membership left negated items =>
    (Truth.negateIf negated
      ((left.meaning environment).isAmong (meanings environment items))).value
  | .nullness operand negated =>
    (Truth.ofBool (decide (operand.meaning environment = .null) != negated)).value
  | .between operand lower upper negated =>
    let value := operand.meaning environment
    (Truth.negateIf negated
      ((value.compared .greaterThanOrEqual (lower.meaning environment)).and
        (value.compared .lessThanOrEqual (upper.meaning environment)))).value
  | .column table name => environment.column table name
  | .value value => value.meaning environment
termination_by structural expression => expression

/-- The values of the items of a list. -/
def meanings (environment : Environment) : List Expression → List QueryModel.Value
  | [] => []
  | item :: rest => item.meaning environment :: meanings environment rest
termination_by structural items => items

end

/-- The truth value of a condition. -/
def Expression.truth (environment : Environment) (expression : Expression) : Truth :=
  (expression.meaning environment).truth

/-- The environment of a row of the table that a statement selects from: the columns are those of
the table, under the name that the statement gives it. -/
def Select.environment (select : Select) (row : String → QueryModel.Value)
    (parameter : Parameter → QueryModel.Value) : Environment where
  column table name :=
    match select.source with
    | none => .null
    | some source => if table = .aliased source.aliasName then row name else .null
  parameter := parameter

/-- The truth value of the restriction of a selection on a row. Where it is left out, it holds. -/
def Select.truth (select : Select) (row : String → QueryModel.Value)
    (parameter : Parameter → QueryModel.Value) : Truth :=
  if select.restriction.isAlways then .holds
  else select.restriction.truth (select.environment row parameter)

/-- A restriction that is left out would hold. -/
theorem Select.truth_eq (select : Select) (row : String → QueryModel.Value)
    (parameter : Parameter → QueryModel.Value) :
    select.truth row parameter =
      select.restriction.truth (select.environment row parameter) := by
  unfold truth
  split
  · next halways =>
    cases hrestriction : select.restriction with
    | value value =>
      rw [hrestriction] at halways
      cases value with
      | boolean constant =>
        obtain rfl : constant = true := halways
        rfl
      | _ => simp [Expression.isAlways] at halways
    | _ => simp [hrestriction, Expression.isAlways] at halways
  · rfl

end Sql

end QueryModel
