/-! # Comparison operators

The twelve comparisons, their names in requests, and the complement of each, which holds exactly
where the other does not and is unknown exactly where the other is.
-/

namespace QueryModel

/-- A comparison of two values, or of a value with a list of values. -/
inductive Operator where
  | equals
  | notEquals
  | lessThan
  | lessThanOrEqual
  | greaterThan
  | greaterThanOrEqual
  | like
  | notLike
  | ilike
  | notIlike
  | isIn
  | notIn
deriving DecidableEq

namespace Operator

/-- Every operator, in their order. -/
def all : List Operator :=
  [.equals, .notEquals, .lessThan, .lessThanOrEqual, .greaterThan, .greaterThanOrEqual, .like,
    .notLike, .ilike, .notIlike, .isIn, .notIn]

/-- The name of an operator in requests and in messages. -/
def name : Operator → String
  | .equals => "_eq"
  | .notEquals => "_neq"
  | .lessThan => "_lt"
  | .lessThanOrEqual => "_lte"
  | .greaterThan => "_gt"
  | .greaterThanOrEqual => "_gte"
  | .like => "_like"
  | .notLike => "_nlike"
  | .ilike => "_ilike"
  | .notIlike => "_nilike"
  | .isIn => "_in"
  | .notIn => "_nin"

/-- The operator of a name. -/
def ofName? (name : String) : Option Operator := all.find? fun operator => operator.name == name

/-- The operator that holds exactly when this one does not. -/
def complement : Operator → Operator
  | .equals => .notEquals
  | .notEquals => .equals
  | .lessThan => .greaterThanOrEqual
  | .greaterThanOrEqual => .lessThan
  | .lessThanOrEqual => .greaterThan
  | .greaterThan => .lessThanOrEqual
  | .like => .notLike
  | .notLike => .like
  | .ilike => .notIlike
  | .notIlike => .ilike
  | .isIn => .notIn
  | .notIn => .isIn

/-- Operators with a list of values on their right. -/
def isMultiValued : Operator → Bool
  | .isIn | .notIn => true
  | .equals | .notEquals | .lessThan | .lessThanOrEqual | .greaterThan | .greaterThanOrEqual
  | .like | .notLike | .ilike | .notIlike => false

/-- Operators with a pattern on their right. -/
def isPattern : Operator → Bool
  | .like | .notLike | .ilike | .notIlike => true
  | .equals | .notEquals | .lessThan | .lessThanOrEqual | .greaterThan | .greaterThanOrEqual
  | .isIn | .notIn => false

/-- Operators that disregard the case of letters. -/
def ignoresCase : Operator → Bool
  | .ilike | .notIlike => true
  | .equals | .notEquals | .lessThan | .lessThanOrEqual | .greaterThan | .greaterThanOrEqual
  | .like | .notLike | .isIn | .notIn => false

/-- The spelling of an operator in HQL. -/
def hql : Operator → String
  | .equals => "="
  | .notEquals => "<>"
  | .lessThan => "<"
  | .lessThanOrEqual => "<="
  | .greaterThan => ">"
  | .greaterThanOrEqual => ">="
  | .like => "like"
  | .notLike => "not like"
  | .ilike => "ilike"
  | .notIlike => "not ilike"
  | .isIn => "in"
  | .notIn => "not in"

/-- The spelling of an operator in SQL. -/
def sql : Operator → String
  | .equals => "="
  | .notEquals => "<>"
  | .lessThan => "<"
  | .lessThanOrEqual => "<="
  | .greaterThan => ">"
  | .greaterThanOrEqual => ">="
  | .like => "LIKE"
  | .notLike => "NOT LIKE"
  | .ilike => "ILIKE"
  | .notIlike => "NOT ILIKE"
  | .isIn => "IN"
  | .notIn => "NOT IN"

theorem mem_all (operator : Operator) : operator ∈ all := by
  cases operator <;> decide

theorem ofName?_name (operator : Operator) : ofName? operator.name = some operator := by
  cases operator <;> decide

@[simp]
theorem complement_complement (operator : Operator) :
    operator.complement.complement = operator := by
  cases operator <;> rfl

@[simp]
theorem isMultiValued_complement (operator : Operator) :
    operator.complement.isMultiValued = operator.isMultiValued := by
  cases operator <;> rfl

end Operator

end QueryModel
