import QueryModel.Json.Printer
import QueryModel.SortedMap
import QueryModel.Text.Escaped

/-! # Properties

The values that a query yields for the properties of an object, and how they are read. The values
are read in the order of their names, and the first that cannot be read is reported, before any
that is missing; values that the object has no property for are passed over.
-/

namespace QueryModel

/-- The values of properties, by name. -/
abbrev Properties := SortedMap Json

/-- The kind of the value of a property. -/
inductive PropertyKind where
  /-- A whole number of 64 bits with a sign. -/
  | word
  /-- A whole number of 8 bits without a sign. -/
  | byte
  | truth
  | text
deriving DecidableEq

/-- A kind, as it is named in a message. -/
def PropertyKind.expectation : PropertyKind → String
  | .word => "i64"
  | .byte => "u8"
  | .truth => "a boolean"
  | .text => "a string"

/-- Why an object cannot be made of its properties. -/
inductive PropertyError where
  | missing (name : String)
  | wrongKind (value : Json) (expected : PropertyKind)
  | outOfRange (n : Int) (expected : PropertyKind)
  /-- Some other reason, in words. -/
  | refused (reason : String)

namespace PropertyError

/-- A text between backticks. -/
def marked (text : List Char) : String := String.ofList ('\x60' :: (text ++ ['\x60']))

/-- A value, as it is described in a message. -/
def describe : Json → String
  | .null => "null"
  | .boolean value => "boolean " ++ marked (if value then "true" else "false").toList
  | .number (.integer n) => "integer " ++ marked (Text.numeral n)
  | .number (.float x) => "floating point " ++ marked (x.text Json.layout)
  | .string text => "string " ++ Text.escaped text
  | .array _ => "sequence"
  | .object _ => "map"

/-- The message of a property error. -/
def message : PropertyError → String
  | .missing name => "missing field " ++ marked name.toList
  | .wrongKind value expected =>
    "invalid type: " ++ describe value ++ ", expected " ++ expected.expectation
  | .outOfRange n expected =>
    "invalid value: " ++ describe (.number (.integer n)) ++ ", expected " ++ expected.expectation
  | .refused reason => reason

end PropertyError

namespace Property

/-- A whole number of 64 bits with a sign. -/
def word : Json → Except PropertyError Int
  | .number (.integer n) => if Text.isWord n then .ok n else .error (.outOfRange n .word)
  | value => .error (.wrongKind value .word)

/-- A whole number of 8 bits without a sign. -/
def byte : Json → Except PropertyError Nat
  | .number (.integer n) =>
    if 0 ≤ n ∧ n < 256 then .ok n.toNat else .error (.outOfRange n .byte)
  | value => .error (.wrongKind value .byte)

/-- A truth value. -/
def truth : Json → Except PropertyError Bool
  | .boolean value => .ok value
  | value => .error (.wrongKind value .truth)

/-- A text. -/
def text : Json → Except PropertyError String
  | .string value => .ok value
  | value => .error (.wrongKind value .text)

/-- A value that may be null. -/
def nullable {α : Type} (read : Json → Except PropertyError α) :
    Json → Except PropertyError (Option α)
  | .null => .ok none
  | value => (read value).map some

/-- A value that may not be missing. -/
def require {α : Type} (name : String) (held : Option α) : Except PropertyError α :=
  match held with
  | some value => .ok value
  | none => .error (.missing name)

end Property

/-- Read properties in the order of their names. -/
def Properties.fold {σ : Type} (properties : Properties)
    (step : σ → String → Json → Except PropertyError σ) (initial : σ) : Except PropertyError σ :=
  properties.entries.foldlM (fun state entry => step state entry.1 entry.2) initial

end QueryModel
