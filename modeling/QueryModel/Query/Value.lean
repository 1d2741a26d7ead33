import QueryModel.Binary64.Basic

/-! # Values and parameters

What stands in a query for a value, and what is supplied for it when the query is run.
-/

namespace QueryModel

/-- A value. -/
inductive Value where
  | null
  | boolean (value : Bool)
  | integer (n : Int)
  | float (x : Binary64)
  | string (text : String)
deriving DecidableEq

/-- A value that is supplied when the query is run, by name or by position. -/
inductive Parameter where
  | named (name : String)
  | positional (position : Nat)
deriving DecidableEq

end QueryModel
