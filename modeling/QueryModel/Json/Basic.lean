import QueryModel.Binary64.Basic
import QueryModel.SortedMap

/-! # JSON values

Values as they stand in a text: the members of an object are kept in the order in which they were
written, repeated names included. The canonical form sorts the members of every object by name and
keeps the last of those that share one.
-/

namespace QueryModel

/-- A JSON number: a whole number written without fraction and exponent, or a floating point one. -/
inductive Json.Number where
  | integer (n : Int)
  | float (x : Binary64.Finite)
deriving DecidableEq

/-- A JSON value. -/
inductive Json where
  | null
  | boolean (value : Bool)
  | number (value : Json.Number)
  | string (value : String)
  | array (items : List Json)
  | object (members : List (String × Json))

namespace Json

mutual

/-- The value with the members of every object sorted by name, the last of each name kept. -/
def canonical : Json → Json
  | .null => .null
  | .boolean value => .boolean value
  | .number value => .number value
  | .string value => .string value
  | .array items => .array (canonicalItems items)
  | .object members => .object (SortedMap.ofList (canonicalMembers members)).entries
termination_by structural value => value

/-- The canonical forms of the items of an array. -/
def canonicalItems : List Json → List Json
  | [] => []
  | item :: rest => canonical item :: canonicalItems rest
termination_by structural items => items

/-- The members of an object, each with a canonical value. -/
def canonicalMembers : List (String × Json) → List (String × Json)
  | [] => []
  | member :: rest => canonicalMember member :: canonicalMembers rest
termination_by structural members => members

/-- A member with a canonical value. -/
def canonicalMember : String × Json → String × Json
  | (name, value) => (name, canonical value)
termination_by structural member => member

end

/-- An object with a single member. -/
def singleton (name : String) (value : Json) : Json := .object [(name, value)]

/-- A whole number. -/
def ofNat (n : Nat) : Json := .number (.integer n)

/-- The last value of a name among the members of an object. -/
def get? (value : Json) (name : String) : Option Json :=
  match value with
  | .object members => (members.reverse.find? fun member => member.1 == name).map Prod.snd
  | _ => none

end Json

end QueryModel
