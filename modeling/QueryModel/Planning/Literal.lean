import QueryModel.Binary64.Decimal
import QueryModel.Planning.Error

/-! # Literals

The literal that a JSON value becomes where a value of some type is expected.
-/

namespace QueryModel

namespace ScalarType

/-- The number of bits of the whole numbers of a type, if it is a type of whole numbers. -/
def wholeBits? : ScalarType → Option Nat
  | .smallint => some 16
  | .integer => some 32
  | .bigint => some 64
  | _ => none

/-- Whether numbers of a type are floating point numbers. -/
def isFloating : ScalarType → Bool
  | .real | .doublePrecision | .numeric => true
  | _ => false

end ScalarType

namespace Json

/-- Whether a whole number fits a number of bits, one of which is the sign. -/
def fitsBits (bits : Nat) (n : Int) : Bool :=
  let bound : Int := Nat.pow 2 (bits - 1)
  n < bound && -bound ≤ n

/-- The whole number of a number that is whole and fits 64 bits with a sign. -/
def Number.word? : Number → Option Int
  | .integer n => if Text.isWord n then some n else none
  | .float _ => none

/-- The floating point number nearest to a number, unless the number is beyond all finite ones. -/
def Number.binary64? : Number → Option Binary64
  | .integer n => if (Binary64.ofInt n).isFinite then some (.ofInt n) else none
  | .float x => some (.finite x)

/-- The literal of a number, where it has one. -/
def numberLiteral? (number : Number) (type : ScalarType) : Option Value :=
  match type.wholeBits? with
  | some bits => (number.word?.filter (fitsBits bits)).map .integer
  | none =>
    if type.isFloating then number.binary64?.map .float
    else if type = .any then
      match number.word? with
      | some n => some (.integer n)
      | none => number.binary64?.map .float
    else none

/-- The literal that a value becomes where a type is expected. Strings can stand for numbers. -/
def literal (value : Json) (type : ScalarType) : Except PlanError Value :=
  match value with
  | .null => .ok .null
  | .boolean b =>
    if type = .boolean ∨ type = .any then .ok (.boolean b)
    else .error (.typeMismatch value type)
  | .number given =>
    match numberLiteral? given type with
    | some literal => .ok literal
    | none => .error (.typeMismatch value type)
  | .string text =>
    if type.wholeBits?.isSome then
      match Text.word? text with
      | none => .error (.typeMismatch value type)
      | some n =>
        match numberLiteral? (.integer n) type with
        | some literal => .ok literal
        | none => .error (.typeMismatch (.number (.integer n)) type)
    else if type.isFloating then
      match (Binary64.ofText? text).filter Binary64.isFinite with
      | some x => .ok (.float x)
      | none => .error (.typeMismatch value type)
    else if type.isTextual ∨ type = .any then .ok (.string text)
    else .error (.typeMismatch value type)
  | .array _ => .error (.notSupported .arrayValues)
  | .object _ => .error (.notSupported .objectValues)

end Json

end QueryModel
