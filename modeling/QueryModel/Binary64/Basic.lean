/-! # Binary floating point numbers of 64 bits

The magnitude of a finite number is counted in units of 2⁻¹⁰⁷⁴, the least positive one. A count of
units is a magnitude when it has at most 53 significant bits and stays below 2¹⁰²⁴.
-/

namespace QueryModel

namespace Binary64

/-- A unit is one halved this many times. -/
def unitExponent : Nat := 1074

/-- The number of units in one. -/
def one : Nat := Nat.pow 2 unitExponent

/-- The first count of units that is too large, 2¹⁰²⁴. -/
def limit : Nat := Nat.pow 2 2098

/-- The distance from a count of units to the next magnitude above it. -/
def spacing (units : Nat) : Nat := Nat.pow 2 (units.log2 - 52)

/-- A count of units that a finite number can have. -/
def IsMagnitude (units : Nat) : Prop := units < limit ∧ spacing units ∣ units

instance (units : Nat) : Decidable (IsMagnitude units) :=
  inferInstanceAs (Decidable (_ ∧ _))

/-- A finite number: a sign, which zero has too, and a magnitude. -/
structure Finite where
  /-- Whether the number is written with a minus sign. -/
  negative : Bool
  /-- The magnitude in units of 2⁻¹⁰⁷⁴. -/
  units : Nat
  /-- The magnitude has 53 significant bits and is in range. -/
  isMagnitude : IsMagnitude units
deriving DecidableEq

/-- The number in units, with its sign; both zeros are zero. -/
def Finite.signedUnits (x : Finite) : Int := if x.negative then -(x.units : Int) else x.units

theorem limit_pos : 0 < limit := by
  unfold limit
  generalize 2098 = exponent
  exact Nat.two_pow_pos exponent

theorem isMagnitude_zero : IsMagnitude 0 := ⟨limit_pos, Nat.dvd_zero _⟩

/-- Zero, with a sign. -/
def Finite.zero (negative : Bool) : Finite := ⟨negative, 0, isMagnitude_zero⟩

end Binary64

/-- A floating point datum: a finite number, an infinity of either sign, or not a number. -/
inductive Binary64 where
  | finite (x : Binary64.Finite)
  | infinity (negative : Bool)
  | nan
deriving DecidableEq

namespace Binary64

/-- Whether a datum is a finite number. -/
def isFinite : Binary64 → Bool
  | .finite _ => true
  | .infinity _ => false
  | .nan => false

/-- The finite number, if it is one. -/
def finite? : Binary64 → Option Finite
  | .finite x => some x
  | .infinity _ => none
  | .nan => none

/-- The order of numbers, in which the zeros are equal and what is not a number has no place. -/
def compare? : Binary64 → Binary64 → Option Ordering
  | .nan, _ => none
  | _, .nan => none
  | .infinity left, .infinity right => some (compare right.toNat left.toNat)
  | .infinity negative, .finite _ => some (if negative then .lt else .gt)
  | .finite _, .infinity negative => some (if negative then .gt else .lt)
  | .finite left, .finite right => some (compare left.signedUnits right.signedUnits)

end Binary64

end QueryModel
