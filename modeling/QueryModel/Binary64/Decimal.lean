import QueryModel.Binary64.Rounding
import QueryModel.Text.Numeral

/-! # Decimal numbers as floating point data

The datum nearest to a decimal number, and the texts that are read as one.
-/

namespace QueryModel.Binary64

/-- A decimal number: a whole number of powers of ten. -/
structure Decimal where
  /-- The digits, read as a whole number. -/
  digits : Nat
  /-- The power of ten they are multiplied by. -/
  exponent : Int
deriving DecidableEq

/-- The number of units, as the numerator of a quotient. -/
def Decimal.numerator (decimal : Decimal) : Nat :=
  decimal.digits * Nat.pow 10 decimal.exponent.toNat * one

/-- The denominator of the quotient. -/
def Decimal.denominator (decimal : Decimal) : Nat := Nat.pow 10 (-decimal.exponent).toNat

theorem Decimal.denominator_pos (decimal : Decimal) : 0 < decimal.denominator :=
  Nat.pow_pos (by decide)

/-- The magnitude nearest to a decimal number. -/
def Decimal.units (decimal : Decimal) : Nat :=
  roundUnits decimal.numerator decimal.denominator

/-- The datum nearest to a decimal number. Exponents far beyond the range are not worked out: 10⁴⁰⁰
is beyond every finite number, and 10⁻⁴⁰⁰ is nearest to zero. -/
def ofDecimal (negative : Bool) (decimal : Decimal) : Binary64 :=
  if decimal.digits = 0 ∨ decimal.exponent + decimal.digits.log2 + 1 ≤ -400 then
    .finite (.zero negative)
  else if 400 ≤ decimal.exponent then
    .infinity negative
  else
    ofQuotient negative decimal.numerator decimal.denominator

/-- The exponent at the end of a decimal text: nothing, or a numeral after an `e`. -/
def exponent? : List Char → Option Int
  | [] => some 0
  | c :: text => if c = 'e' ∨ c = 'E' then Text.numeral? text else none

/-- The parts of a decimal text. -/
structure Decimal.Parts where
  /-- The digits before the point. -/
  whole : List Char
  /-- The digits after the point. -/
  fraction : List Char
  /-- The written power of ten. -/
  exponent : Int
deriving DecidableEq

/-- The parts of a text without a sign: digits, with a point anywhere among them or beside them, and
an exponent. -/
def Decimal.Parts.ofText? (text : List Char) : Option Decimal.Parts :=
  let whole := text.takeWhile Char.isDigit
  let afterWhole := text.dropWhile Char.isDigit
  let fraction := if afterWhole.head? = some '.' then
    afterWhole.tail.takeWhile Char.isDigit else []
  let rest := if afterWhole.head? = some '.' then
    afterWhole.tail.dropWhile Char.isDigit else afterWhole
  if whole.isEmpty && fraction.isEmpty then none
  else (exponent? rest).map fun exponent => ⟨whole, fraction, exponent⟩

/-- The decimal number that the parts make up. -/
def Decimal.Parts.decimal (parts : Decimal.Parts) : Decimal :=
  ⟨Text.ofDigits (parts.whole ++ parts.fraction), parts.exponent - parts.fraction.length⟩

/-- The decimal number of a text without a sign. -/
def decimal? (text : List Char) : Option Decimal :=
  (Decimal.Parts.ofText? text).map Decimal.Parts.decimal

/-- The datum of a text without a sign: a word for infinity, a word for no number, or a decimal. -/
def unsigned? (negative : Bool) (text : List Char) : Option Binary64 :=
  let word := text.map Char.toLower
  if word = ['i', 'n', 'f'] ∨ word = ['i', 'n', 'f', 'i', 'n', 'i', 't', 'y'] then
    some (.infinity negative)
  else if word = ['n', 'a', 'n'] then some .nan
  else (decimal? text).map (ofDecimal negative)

/-- The datum that a text denotes, which may begin with either sign. -/
def ofText? (text : String) : Option Binary64 :=
  match text.toList with
  | '-' :: rest => unsigned? true rest
  | '+' :: rest => unsigned? false rest
  | rest => unsigned? false rest

end QueryModel.Binary64
