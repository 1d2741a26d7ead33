import QueryModel.Binary64.Scaling
import QueryModel.Json.Basic

/-! # Reading numbers

A number without fraction and exponent is whole if it fits 64 bits. Every other one is floating
point, and is read fast rather than exactly: its leading digits make up a significand of 64 bits,
which is rounded to a floating point number and then scaled by a power of ten.
-/

namespace QueryModel.Json

/-- The first significand that does not fit 64 bits. -/
def significandLimit : Nat := 18446744073709551616

/-- A significand with digits appended to it as long as it stays below the limit, and the digits
that are left from the first one that does not fit. -/
def appendDigits (significand : Nat) : List Char → Nat × List Char
  | [] => (significand, [])
  | digit :: rest =>
    let appended := Nat.ofDigitChars 10 [digit] significand
    if appended < significandLimit then appendDigits appended rest
    else (significand, digit :: rest)

/-- The decimal number that is left of a written one when its significand has to fit 64 bits. Whole
digits that do not fit count as powers of ten, fraction digits that do not fit are dropped. Fraction
digits are tried even after whole digits that did not fit. -/
def shortened (parts : Binary64.Decimal.Parts) : Binary64.Decimal :=
  let whole := appendDigits 0 parts.whole
  let all := appendDigits whole.1 parts.fraction
  ⟨all.1, parts.exponent + whole.2.length + all.2.length - parts.fraction.length⟩

/-- The floating point number of a text without its sign, if it is in range. -/
def float? (negative : Bool) (unsigned : List Char) : Option Binary64.Finite := do
  let parts ← Binary64.Decimal.Parts.ofText? unsigned
  let decimal := shortened parts
  let significand ← (Binary64.ofDecimal negative ⟨decimal.digits, 0⟩).finite?
  significand.scale? decimal.exponent

/-- The number of a written one. Without fraction and exponent it is whole if it fits 64 bits, with
or without a sign; minus zero is a floating point number. -/
def Number.ofText? (written : List Char) : Option Number :=
  let negative := written.head? = some '-'
  let unsigned := if negative then written.tail else written
  let whole? : Option Int :=
    if unsigned.all Char.isDigit then
      (Text.numeral? written).filter fun n =>
        decide (-9223372036854775808 ≤ n ∧ n < 18446744073709551616) &&
          !(negative && n == 0)
    else none
  match whole? with
  | some n => some (.integer n)
  | none => (float? negative unsigned).map .float

end QueryModel.Json
