import QueryModel.Binary64.Decimal

/-! # Shortest decimal digits

The decimal number of fewest digits that is read back as a given magnitude, and of those the one
nearest to it. Main statement: what is found is read back as the magnitude it was found for.
-/

namespace QueryModel.Binary64

/-- Where a magnitude lies halfway between the two candidates: the upper one, or the even one. -/
inductive Tie where
  | up
  | even
deriving DecidableEq

/-- The exponent of the leading decimal digit of a positive magnitude. -/
def leadingExponent (units : Nat) : Int :=
  if one ≤ units then (Text.digits (units / one)).length - 1
  else -((Text.digits ((one + units - 1) / units - 1)).length : Int)

/-- The neighbours of a magnitude among the multiples of a power of ten, the preferred one first. -/
def neighbours (tie : Tie) (units : Nat) (exponent : Int) : List Decimal :=
  let numerator := units * Nat.pow 10 (-exponent).toNat
  let denominator := one * Nat.pow 10 exponent.toNat
  let floor := numerator / denominator
  let twice := 2 * (numerator % denominator)
  let below : Decimal := ⟨floor, exponent⟩
  let above : Decimal := ⟨floor + 1, exponent⟩
  let belowFirst := twice < denominator ∨
    (twice = denominator ∧ tie = .even ∧ floor % 2 = 0)
  if belowFirst then [below, above] else [above, below]

/-- A magnitude written out in full. -/
def exactDecimal (units : Nat) : Decimal := ⟨units * Nat.pow 5 unitExponent, -unitExponent⟩

/-- The candidates for a magnitude with one digit, with two, and so on up to seventeen. -/
def candidates (tie : Tie) (units : Nat) : List Decimal :=
  (List.range 17).flatMap fun (extra : Nat) => neighbours tie units (leadingExponent units - extra)

/-- The shortest decimal number that is read back as a magnitude. -/
def shortest (tie : Tie) (units : Nat) : Decimal :=
  if units = 0 then ⟨0, 0⟩
  else
    match (candidates tie units).find? fun decimal => decimal.units = units with
    | some decimal => decimal
    | none => exactDecimal units

private theorem five_pow_mul_two_pow (exponent : Nat) :
    Nat.pow 5 exponent * Nat.pow 2 exponent = Nat.pow 10 exponent := by
  simp only [Nat.pow_eq]
  rw [← Nat.mul_pow]

private theorem nearestEven_mul_right {numerator denominator factor : Nat}
    (hpositive : 0 < factor) :
    nearestEven (numerator * factor) (denominator * factor) =
      nearestEven numerator denominator := by
  have hfloor : numerator * factor / (denominator * factor) = numerator / denominator :=
    Nat.mul_div_mul_right _ _ hpositive
  have hmod : numerator * factor % (denominator * factor) = numerator % denominator * factor :=
    Nat.mul_mod_mul_right _ _ _
  simp only [nearestEven, hfloor, hmod]
  have hless : 2 * (numerator % denominator * factor) < denominator * factor ↔
      2 * (numerator % denominator) < denominator := by
    rw [← Nat.mul_assoc]
    exact Nat.mul_lt_mul_right hpositive
  have heq : 2 * (numerator % denominator * factor) = denominator * factor ↔
      2 * (numerator % denominator) = denominator := by
    rw [← Nat.mul_assoc]
    exact Nat.mul_left_inj (Nat.pos_iff_ne_zero.mp hpositive)
  simp only [hless, heq]

/-- Rounding depends on the quotient alone. -/
theorem roundUnits_mul_right {numerator denominator factor : Nat} (hpositive : 0 < factor) :
    roundUnits (numerator * factor) (denominator * factor) = roundUnits numerator denominator := by
  have hfloor : numerator * factor / (denominator * factor) = numerator / denominator :=
    Nat.mul_div_mul_right _ _ hpositive
  simp only [roundUnits, hfloor]
  rw [Nat.mul_right_comm denominator factor, nearestEven_mul_right hpositive]

private theorem units_exactDecimal {units : Nat} (hunits : spacing units ∣ units) :
    (exactDecimal units).units = units := by
  have hnumerator : (exactDecimal units).numerator = units * Nat.pow 10 unitExponent := by
    unfold Decimal.numerator exactDecimal one
    generalize unitExponent = exponent
    have hzero : (-(exponent : Int)).toNat = 0 := by omega
    have hone : Nat.pow 10 0 = 1 := rfl
    rw [hzero, hone, Nat.mul_one, Nat.mul_assoc, five_pow_mul_two_pow]
  have hdenominator : (exactDecimal units).denominator = 1 * Nat.pow 10 unitExponent := by
    unfold Decimal.denominator exactDecimal
    generalize unitExponent = exponent
    have hexponent : (-(-(exponent : Int))).toNat = exponent := by omega
    rw [hexponent, Nat.one_mul]
  have hpositive : 0 < Nat.pow 10 unitExponent := by
    generalize unitExponent = exponent
    exact Nat.pow_pos (by decide)
  rw [Decimal.units, hnumerator, hdenominator, roundUnits_mul_right hpositive]
  exact roundUnits_eq_self hunits

/-- The shortest decimal number is read back as the magnitude it stands for. -/
theorem units_shortest (tie : Tie) {units : Nat} (hunits : IsMagnitude units) :
    (shortest tie units).units = units := by
  unfold shortest
  split
  · next hzero =>
    subst hzero
    have hpositive : 0 < Decimal.denominator ⟨0, 0⟩ * spacing 0 :=
      Nat.mul_pos (Decimal.denominator_pos _) (Nat.two_pow_pos _)
    simp [Decimal.units, Decimal.numerator, roundUnits, nearestEven, hpositive]
  · split
    · next decimal hfound => simpa using List.find?_some hfound
    · exact units_exactDecimal hunits.2

end QueryModel.Binary64
