import QueryModel.Binary64.Shortest

/-! # Floating point text

A finite number in its shortest digits, laid out plainly or with an exponent. What the texts of
different formats share is here; a format states its choices as one `Layout`.
-/

namespace QueryModel.Binary64

/-- The choices a format makes for floating point text. -/
structure Layout where
  /-- The least exponent of the leading digit that is still laid out plainly, if there is one. -/
  leastPlain : Option Int
  /-- The greatest exponent of the leading digit that is still laid out plainly, if there is one. -/
  greatestPlain : Option Int
  /-- Whether a whole number in plain layout ends in a point and a zero. -/
  pointAfterWhole : Bool
  /-- Whether a positive exponent has a plus sign. -/
  plusSign : Bool
  /-- Which of two equally near digit strings is taken. -/
  tie : Tie

/-- Text without exponents, and without a point after a whole number. -/
def Layout.plain : Layout := ⟨none, none, false, false, .up⟩

/-- Digits laid out without an exponent, the leading digit having the given exponent. -/
def plainText (layout : Layout) (digits : List Char) (leading : Int) : List Char :=
  if leading < 0 then
    ['0', '.'] ++ List.replicate (-leading - 1).toNat '0' ++ digits
  else
    let wholeLength := leading.toNat + 1
    if wholeLength < digits.length then
      digits.take wholeLength ++ ['.'] ++ digits.drop wholeLength
    else
      digits ++ List.replicate (wholeLength - digits.length) '0' ++
        (if layout.pointAfterWhole then ['.', '0'] else [])

/-- Digits laid out with one of them before the point, and an exponent. -/
def exponentText (layout : Layout) (digits : List Char) (leading : Int) : List Char :=
  let fraction := digits.drop 1
  digits.take 1 ++ (if fraction.isEmpty then [] else '.' :: fraction) ++ ['e'] ++
    (if layout.plusSign && 0 ≤ leading then ['+'] else []) ++ Text.numeral leading

/-- Whether a layout writes a number with this exponent of its leading digit plainly. -/
def Layout.isPlain (layout : Layout) (leading : Int) : Bool :=
  layout.leastPlain.all (fun least => decide (least ≤ leading)) &&
    layout.greatestPlain.all fun greatest => decide (leading ≤ greatest)

/-- Digits without the zeros at their end. -/
def withoutTrailingZeros (digits : List Char) : List Char :=
  (digits.reverse.dropWhile (· == '0')).reverse

/-- The text of a magnitude. -/
def magnitudeText (layout : Layout) (units : Nat) : List Char :=
  if units = 0 then plainText layout ['0'] 0
  else
    let decimal := shortest layout.tie units
    let digits := Text.digits decimal.digits
    let leading := decimal.exponent + (digits.length - 1 : Int)
    if layout.isPlain leading then plainText layout (withoutTrailingZeros digits) leading
    else exponentText layout (withoutTrailingZeros digits) leading

/-- The text of a finite number. -/
def Finite.text (layout : Layout) (x : Finite) : List Char :=
  (if x.negative then ['-'] else []) ++ magnitudeText layout x.units

/-- The text of a datum, finite or not. -/
def text (layout : Layout) : Binary64 → List Char
  | .finite x => x.text layout
  | .infinity negative => (if negative then ['-'] else []) ++ ['i', 'n', 'f']
  | .nan => ['N', 'a', 'N']

end QueryModel.Binary64
