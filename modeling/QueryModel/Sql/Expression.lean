import QueryModel.Binary64.Basic

/-! # SQL statements

The statements that queries become: a selection of all columns of a table, restricted by a boolean
expression.
-/

namespace QueryModel.Sql

/-- A table, by its name in the database or by the name the statement gives it. -/
inductive TableReference where
  | stored (schema table : String)
  | aliased (name : String)
deriving DecidableEq

/-- A value in a statement. Parameters are supplied when the statement is run. -/
inductive Value where
  | integer (n : Int)
  | float (x : Binary64)
  | boolean (value : Bool)
  | string (text : String)
  | null
  | variable (name : String)
  | positional (position : Nat)
deriving DecidableEq

/-- An expression. -/
inductive Expression where
  | and (left right : Expression)
  | or (left right : Expression)
  | not (operand : Expression)
  /-- An operator, by its text, between two operands. -/
  | binary (left : Expression) (operator : String) (right : Expression)
  /-- Membership in a list, or the contrary. -/
  | membership (left : Expression) (negated : Bool) (items : List Expression)
  /-- A test for null, or for not null. -/
  | nullness (operand : Expression) (negated : Bool)
  | between (operand lower upper : Expression) (negated : Bool)
  | column (table : TableReference) (name : String)
  | value (value : Value)

namespace Expression

/-- The expression that restricts nothing. -/
def always : Expression := .value (.boolean true)

/-- The expression that lets nothing pass. -/
def never : Expression := .value (.boolean false)

/-- Whether an expression is the constant that restricts nothing. -/
def isAlways : Expression → Bool
  | .value (.boolean constant) => constant
  | _ => false

end Expression

/-- The table a statement selects from, and the name it gives it. -/
structure From where
  table : TableReference
  aliasName : String
deriving DecidableEq

/-- A selection of all columns. -/
structure Select where
  source : Option From
  restriction : Expression

end QueryModel.Sql
