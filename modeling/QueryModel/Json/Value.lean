import QueryModel.Json.Document
import QueryModel.Json.Number

/-! # The value of a JSON text

A document is taken as a value when it is complete, when every string in it is one, when every
number in it is in range, and when its arrays and objects are nested at most 127 deep.
-/

namespace QueryModel.Json

/-- The nesting of arrays and objects that a reader goes along with. -/
def depthLimit : Nat := 127

mutual

/-- The value of a document whose containers may be nested as deep as `depth`. -/
def Document.value? (depth : Nat) : Document → Option Json
  | .null _ => some .null
  | .boolean _ value => some (.boolean value)
  | .number _ written => (Number.ofText? written).map .number
  | .string _ value => value.map .string
  | .array _ items (.closed _) =>
    match depth with
    | 0 => none
    | depth + 1 => (itemValues? depth items).map .array
  | .object _ members (.closed _) =>
    match depth with
    | 0 => none
    | depth + 1 => (memberValues? depth members).map .object
  | .array _ _ (.broken _ _) => none
  | .object _ _ (.broken _ _) => none
  | .cut _ => none
termination_by structural document => document

/-- The values of the items of an array. -/
def itemValues? (depth : Nat) : List Document → Option (List Json)
  | [] => some []
  | item :: rest => do
    let value ← item.value? depth
    let values ← itemValues? depth rest
    some (value :: values)
termination_by structural items => items

/-- The values of the members of an object, with their names. -/
def memberValues? (depth : Nat) : List (Key × Document) → Option (List (String × Json))
  | [] => some []
  | member :: rest => do
    let value ← memberValue? depth member
    let values ← memberValues? depth rest
    some (value :: values)
termination_by structural members => members

/-- The value of a member, with its name. -/
def memberValue? (depth : Nat) : Key × Document → Option (String × Json)
  | (key, document) => do
    let name ← key.name
    let value ← document.value? depth
    some (name, value)
termination_by structural member => member

end

/-- The value that a text denotes. -/
def parse? (text : String) : Option Json :=
  let reading := read text
  if reading.trailing.isSome then none else reading.document.value? depthLimit

end QueryModel.Json
