import QueryModel.Binary64.Decimal

/-! # Scaling by powers of ten

Products and quotients of numbers, each rounded to the nearest magnitude, and numbers scaled by a
power of ten through them. Scaling rounds twice or more, first the power and then the result, so it
need not give the number that is nearest to the exact product.
-/

namespace QueryModel.Binary64

/-- The product of two numbers. -/
def Finite.mul (left right : Finite) : Binary64 :=
  ofQuotient (left.negative != right.negative) (left.units * right.units) one

/-- The quotient of two numbers. -/
def Finite.div (left right : Finite) : Binary64 :=
  if right.units = 0 then
    if left.units = 0 then .nan else .infinity (left.negative != right.negative)
  else
    ofQuotient (left.negative != right.negative) (left.units * one) right.units

/-- The exponent of the greatest power of ten that is a finite number. -/
def greatestTenPower : Nat := 308

/-- The number nearest to a power of ten, if the power is in range. -/
def Finite.tenPow? (exponent : Nat) : Option Finite := (ofDecimal false ⟨1, exponent⟩).finite?

/-- A number times a power of ten, if the power and the product are in range. -/
def Finite.scaleUp? (x : Finite) (exponent : Nat) : Option Finite :=
  if x.units = 0 then some x
  else do
    let power ← Finite.tenPow? exponent
    (x.mul power).finite?

/-- A number divided by a power of ten, by the greatest one as often as it takes. -/
def Finite.scaleDown? (x : Finite) (exponent : Nat) : Option Finite :=
  if x.units = 0 then some x
  else if exponent ≤ greatestTenPower then do
    let power ← Finite.tenPow? exponent
    (x.div power).finite?
  else do
    let power ← Finite.tenPow? greatestTenPower
    let quotient ← (x.div power).finite?
    quotient.scaleDown? (exponent - greatestTenPower)
termination_by exponent
decreasing_by
  have : 0 < greatestTenPower := by decide
  omega

/-- A number scaled by a power of ten, if that stays in range. -/
def Finite.scale? (x : Finite) (exponent : Int) : Option Finite :=
  if 0 ≤ exponent then x.scaleUp? exponent.toNat else x.scaleDown? (-exponent).toNat

end QueryModel.Binary64
