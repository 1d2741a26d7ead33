import QueryModel.Binary64.Basic

/-! # Rounding to the nearest magnitude

A positive rational, as a quotient of units, goes to the nearest count of 53 significant bits, and
to the even one where two are equally near. Counts beyond the range become infinite.
-/

namespace QueryModel.Binary64

/-- A quotient rounded to the nearest whole number, a half going to the even one. -/
def nearestEven (numerator denominator : Nat) : Nat :=
  let floor := numerator / denominator
  let twice := 2 * (numerator % denominator)
  if twice < denominator ∨ (twice = denominator ∧ floor % 2 = 0) then floor else floor + 1

/-- A quotient of units rounded to 53 significant bits. -/
def roundUnits (numerator denominator : Nat) : Nat :=
  let step := spacing (numerator / denominator)
  nearestEven numerator (denominator * step) * step

theorem nearestEven_bounds (numerator denominator : Nat) :
    numerator / denominator ≤ nearestEven numerator denominator ∧
      nearestEven numerator denominator ≤ numerator / denominator + 1 := by
  unfold nearestEven
  dsimp only
  split <;> omega

/-- A count of at most 53 bits, shifted left, is a multiple of its own spacing. -/
theorem spacing_dvd_mul_two_pow {significand : Nat} (shift : Nat)
    (hupper : significand ≤ Nat.pow 2 53) :
    spacing (significand * Nat.pow 2 shift) ∣ significand * Nat.pow 2 shift := by
  simp only [Nat.pow_eq] at *
  by_cases hzero : significand = 0
  · subst hzero
    simp
  · have hproduct : significand * 2 ^ shift ≠ 0 :=
      Nat.mul_ne_zero hzero (Nat.pos_iff_ne_zero.mp (Nat.two_pow_pos shift))
    unfold spacing
    rcases Nat.lt_or_eq_of_le hupper with hless | heq
    · have hlog : (significand * 2 ^ shift).log2 - 52 ≤ shift := by
        have hbound : significand * 2 ^ shift < 2 ^ (53 + shift) := by
          rw [Nat.pow_add]
          exact Nat.mul_lt_mul_of_pos_right hless (Nat.two_pow_pos shift)
        have := (Nat.log2_lt hproduct).mpr hbound
        omega
      exact Nat.dvd_trans (Nat.pow_dvd_pow 2 hlog) (Nat.dvd_mul_left _ _)
    · subst heq
      rw [← Nat.pow_add, Nat.log2_two_pow]
      exact Nat.pow_dvd_pow 2 (by omega)

/-- Rounding gives a count of 53 significant bits. -/
theorem spacing_dvd_roundUnits (numerator denominator : Nat) :
    spacing (roundUnits numerator denominator) ∣ roundUnits numerator denominator := by
  unfold roundUnits
  dsimp only
  generalize hfloor : numerator / denominator = floor
  have hstep : spacing floor = 2 ^ (floor.log2 - 52) := rfl
  have hquotient : numerator / (denominator * spacing floor) = floor / spacing floor := by
    rw [← Nat.div_div_eq_div_mul, hfloor]
  have hbounds := nearestEven_bounds numerator (denominator * spacing floor)
  rw [hquotient, hstep] at hbounds
  rw [hstep]
  have hfloorUpper : floor / 2 ^ (floor.log2 - 52) < 2 ^ 53 := by
    rw [Nat.div_lt_iff_lt_mul (Nat.two_pow_pos _), ← Nat.pow_add]
    exact Nat.lt_of_lt_of_le Nat.lt_log2_self (Nat.pow_le_pow_right (by decide) (by omega))
  apply spacing_dvd_mul_two_pow
  show _ ≤ 2 ^ 53
  omega

/-- The datum nearest to a quotient of units, with a sign. -/
def ofQuotient (negative : Bool) (numerator denominator : Nat) : Binary64 :=
  if h : roundUnits numerator denominator < limit then
    .finite ⟨negative, roundUnits numerator denominator, h, spacing_dvd_roundUnits _ _⟩
  else
    .infinity negative

/-- The datum nearest to a whole number. -/
def ofInt (n : Int) : Binary64 :=
  ofQuotient (n < 0) (n.natAbs * one) 1

/-- A magnitude is not changed by rounding. -/
theorem roundUnits_eq_self {units : Nat} (hunits : spacing units ∣ units) :
    roundUnits units 1 = units := by
  simp only [roundUnits, Nat.div_one, Nat.one_mul, nearestEven, Nat.mod_eq_zero_of_dvd hunits]
  have hpositive : 0 < spacing units := Nat.two_pow_pos _
  rw [if_pos (Or.inl (by omega))]
  exact Nat.div_mul_cancel hunits

end QueryModel.Binary64
