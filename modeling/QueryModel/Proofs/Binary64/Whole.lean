import QueryModel.Proofs.Binary64.ReadBack

/-! # Whole floating point numbers

The magnitude nearest to a whole number is one of a whole number, and its shortest digits are those
of a whole number too: not always of the given one, but of one that has the same nearest magnitude.
Main statements: a whole magnitude is written as the numeral of such a number, and up to 2⁵³ it is
the given one.
-/

namespace QueryModel

namespace Text

/-- Multiplying a number by a power of ten appends zeros to its digits. -/
theorem digits_mul_ten_pow {n : Nat} (hn : n ≠ 0) (count : Nat) :
    digits (n * Nat.pow 10 count) = digits n ++ List.replicate count '0' := by
  induction count with
  | zero => rw [Nat.pow_eq, Nat.pow_zero, Nat.mul_one, List.replicate_zero, List.append_nil]
  | succ count ih =>
    have hpositive : 0 < n * Nat.pow 10 count :=
      Nat.mul_pos (Nat.pos_of_ne_zero hn) (Nat.pow_pos (by decide))
    have happend : digits (n * Nat.pow 10 count) ++ digits 0 =
        digits (10 * (n * Nat.pow 10 count) + 0) :=
      Nat.toDigits_append_toDigits (by decide) hpositive (by decide)
    have hten : n * Nat.pow 10 (count + 1) = 10 * (n * Nat.pow 10 count) + 0 := by
      rw [Nat.add_zero, Nat.mul_left_comm, Nat.mul_comm 10]
      rfl
    rw [List.replicate_succ', ← List.append_assoc, ← ih, hten, ← happend]
    rfl

theorem toLower_of_isDigit {c : Char} (hc : c.isDigit) : c.toLower = c := by
  rw [Char.isDigit, Bool.and_eq_true, decide_eq_true_eq, decide_eq_true_eq] at hc
  refine dif_neg ?_
  rintro ⟨hupper, -⟩
  exact absurd (UInt32.le_trans hupper hc.2) (by decide)

end Text

namespace Binary64

theorem withoutTrailingZeros_append_zeros (digits : List Char) (count : Nat) :
    withoutTrailingZeros (digits ++ List.replicate count '0') = withoutTrailingZeros digits := by
  induction count with
  | zero => rw [List.replicate_zero, List.append_nil]
  | succ count ih =>
    rw [List.replicate_succ', ← List.append_assoc, ← ih]
    simp [withoutTrailingZeros]

/-! ## Rounding whole numbers -/

theorem two_pow_add (m n : Nat) : Nat.pow 2 (m + n) = Nat.pow 2 m * Nat.pow 2 n :=
  Nat.pow_add 2 m n

theorem one_pos : 0 < one := by
  unfold one
  generalize unitExponent = exponent
  exact Nat.two_pow_pos exponent

theorem mul_one_ne_zero {n : Nat} (hn : n ≠ 0) : n * one ≠ 0 :=
  Nat.mul_ne_zero hn one_pos.ne'

/-- Rounding does not take the leading bit from a magnitude. -/
theorem two_pow_log2_le_roundUnits {units : Nat} (hunits : units ≠ 0) :
    Nat.pow 2 units.log2 ≤ roundUnits units 1 := by
  have hdivides : spacing units ∣ Nat.pow 2 units.log2 := Nat.pow_dvd_pow 2 (Nat.sub_le _ _)
  obtain ⟨significand, hleading⟩ := hdivides
  have hle : significand ≤ nearestEven units (spacing units) := by
    have hfloor : significand ≤ units / spacing units := by
      have hpositive : 0 < spacing units := Nat.two_pow_pos _
      rw [Nat.le_div_iff_mul_le hpositive, Nat.mul_comm, ← hleading]
      exact Nat.log2_self_le hunits
    exact hfloor.trans (nearestEven_bounds units (spacing units)).1
  rw [roundUnits, Nat.div_one, Nat.one_mul, hleading, Nat.mul_comm]
  exact Nat.mul_le_mul_right _ hle

/-- Whole numbers of at most 53 bits are magnitudes. -/
theorem isMagnitude_mul_one {n : Nat} (hn : n < Nat.pow 2 53) : IsMagnitude (n * one) := by
  have hrange : 53 + unitExponent ≤ 2098 := by decide
  unfold one
  refine ⟨?_, spacing_dvd_mul_two_pow unitExponent (Nat.le_of_lt hn)⟩
  unfold limit
  generalize unitExponent = exponent at *
  generalize 2098 = last at *
  refine Nat.lt_of_lt_of_le (Nat.mul_lt_mul_of_pos_right hn (Nat.two_pow_pos exponent)) ?_
  rw [← two_pow_add]
  exact Nat.pow_le_pow_right (by decide) hrange

/-- The magnitude nearest to a whole number is whole. -/
theorem one_dvd_roundUnits (n : Nat) : one ∣ roundUnits (n * one) 1 := by
  unfold one
  generalize unitExponent = exponent
  rcases Nat.le_total ((n * Nat.pow 2 exponent).log2 - 52) exponent with hfine | hcoarse
  · have hspacing : spacing (n * Nat.pow 2 exponent) ∣ Nat.pow 2 exponent :=
      Nat.pow_dvd_pow 2 hfine
    rw [roundUnits_eq_self (Nat.dvd_trans hspacing (Nat.dvd_mul_left _ n))]
    exact Nat.dvd_mul_left _ n
  · have hspacing : Nat.pow 2 exponent ∣ spacing (n * Nat.pow 2 exponent) :=
      Nat.pow_dvd_pow 2 hcoarse
    rw [roundUnits, Nat.div_one]
    exact Nat.dvd_trans hspacing (Nat.dvd_mul_left _ _)

theorem roundUnits_mul_one_ne_zero {n : Nat} (hn : n ≠ 0) : roundUnits (n * one) 1 ≠ 0 :=
  ((Nat.two_pow_pos _).trans_le (two_pow_log2_le_roundUnits (mul_one_ne_zero hn))).ne'

/-- No other whole number has the nearest magnitude of one of 53 bits. -/
theorem eq_of_roundUnits_mul_one_eq {m n : Nat} (hn : n < Nat.pow 2 53)
    (hsame : roundUnits (m * one) 1 = roundUnits (n * one) 1) : m = n := by
  rw [roundUnits_eq_self (isMagnitude_mul_one hn).2] at hsame
  rcases Nat.lt_or_ge m (Nat.pow 2 53) with hm | hm
  · rw [roundUnits_eq_self (isMagnitude_mul_one hm).2] at hsame
    exact Nat.eq_of_mul_eq_mul_right one_pos hsame
  · -- The leading bit of the greater number stays, and is above all bits of the other.
    have hlarge : Nat.pow 2 53 * one ≤ n * one := by
      rw [← hsame]
      have hnonzero := mul_one_ne_zero (Nat.ne_of_gt (Nat.lt_of_lt_of_le (by decide) hm))
      refine Nat.le_trans ?_ (two_pow_log2_le_roundUnits hnonzero)
      unfold one at *
      generalize unitExponent = exponent at *
      rw [← two_pow_add]
      refine Nat.pow_le_pow_right (by decide) ((Nat.le_log2 hnonzero).mpr ?_)
      rw [← Nat.pow_eq, two_pow_add]
      exact Nat.mul_le_mul_right _ hm
    exact absurd (Nat.le_of_mul_le_mul_right hlarge one_pos) (Nat.not_le.mpr hn)

/-! ## Shortest digits -/

/-- `decimal.Equals n`: the decimal number is the whole number. -/
def Decimal.Equals (decimal : Decimal) (n : Nat) : Prop :=
  decimal.digits * Nat.pow 10 decimal.exponent.toNat = n * Nat.pow 10 (-decimal.exponent).toNat

namespace Decimal

variable {decimal : Decimal} {n : Nat}

theorem units_eq_of_equals (hequals : decimal.Equals n) :
    decimal.units = roundUnits (n * one) 1 := by
  have hcommon : roundUnits (n * one * decimal.denominator) (1 * decimal.denominator) =
      roundUnits (n * one) 1 :=
    roundUnits_mul_right decimal.denominator_pos
  rwa [Nat.one_mul, Nat.mul_right_comm, denominator, ← hequals] at hcommon

theorem equals_of_exponent_nonneg (hexponent : 0 ≤ decimal.exponent) :
    decimal.Equals (decimal.digits * Nat.pow 10 decimal.exponent.toNat) := by
  have hnegated : (-decimal.exponent).toNat = 0 := by omega
  rw [Equals, hnegated]
  exact (Nat.mul_one _).symm

end Decimal

theorem exactDecimal_equals (n : Nat) : (exactDecimal (n * one)).Equals n := by
  unfold Decimal.Equals exactDecimal one
  generalize unitExponent = exponent
  have hnegated : (-(exponent : Int)).toNat = 0 := by omega
  have hexponent : (- -(exponent : Int)).toNat = exponent := by omega
  simp only [hnegated, hexponent, Nat.pow_eq, Nat.pow_zero, Nat.mul_one]
  rw [Nat.mul_assoc, ← Nat.mul_pow]

theorem leadingExponent_nonneg {n : Nat} (hn : n ≠ 0) : 0 ≤ leadingExponent (n * one) := by
  rw [leadingExponent, if_pos (Nat.le_mul_of_pos_left one (Nat.pos_of_ne_zero hn))]
  have hlength := List.length_pos_iff.mpr (Text.digits_ne_nil (n * one / one))
  omega

/-- Among the whole numbers the magnitude itself is the preferred neighbour. -/
theorem find?_neighbours_zero {n : Nat} (tie : Tie) (hunits : spacing (n * one) ∣ n * one) :
    (neighbours tie (n * one) 0).find? (fun decimal => decimal.units = n * one) =
      some ⟨n, 0⟩ := by
  have hneighbours : neighbours tie (n * one) 0 = [⟨n, 0⟩, ⟨n + 1, 0⟩] := by
    have hnegated : Nat.pow 10 (-0 : Int).toNat = 1 := rfl
    have hexponent : Nat.pow 10 (0 : Int).toNat = 1 := rfl
    have hbelow : 2 * (n * one % one) < one := by
      rw [Nat.mul_mod_left]
      exact one_pos
    unfold neighbours
    rw [hnegated, hexponent, Nat.mul_one, Nat.mul_one]
    dsimp only
    rw [if_pos (.inl hbelow), Nat.mul_div_cancel _ one_pos]
  have hequals : Decimal.Equals ⟨n, 0⟩ n := rfl
  rw [hneighbours, List.find?_cons_of_pos]
  rw [decide_eq_true_eq, Decimal.units_eq_of_equals hequals, roundUnits_eq_self hunits]

theorem exponent_of_mem_neighbours {tie : Tie} {units : Nat} {exponent : Int} {decimal : Decimal}
    (hdecimal : decimal ∈ neighbours tie units exponent) : decimal.exponent = exponent := by
  unfold neighbours at hdecimal
  dsimp only at hdecimal
  split at hdecimal <;> simp only [List.mem_cons, List.not_mem_nil, or_false] at hdecimal <;>
    rcases hdecimal with rfl | rfl <;> rfl

/-- The shortest digits of a whole magnitude are those of a whole number. -/
theorem exists_shortest_equals {n : Nat} (tie : Tie) (hn : n ≠ 0)
    (hunits : spacing (n * one) ∣ n * one) : ∃ m, (shortest tie (n * one)).Equals m := by
  rw [shortest, if_neg (mul_one_ne_zero hn)]
  split
  · next decimal hfound =>
    refine ⟨_, Decimal.equals_of_exponent_nonneg ?_⟩
    rw [candidates, List.find?_flatMap, List.findSome?_eq_some_iff] at hfound
    obtain ⟨fewer, extra, more, hrange, hfound, hfewer⟩ := hfound
    rw [exponent_of_mem_neighbours (List.mem_of_find?_eq_some hfound)]
    -- With digits down to the ones the magnitude itself is found, so no more digits are tried.
    by_contra hnegative
    obtain ⟨leading, hleading⟩ := Int.eq_ofNat_of_zero_le (leadingExponent_nonneg hn)
    have hsorted : (fewer ++ extra :: more).Pairwise (· < ·) := hrange ▸ List.pairwise_lt_range
    have hextra : extra < 17 := List.mem_range.mp (hrange ▸ List.mem_append_cons_self)
    have hmem : leading ∈ fewer ++ extra :: more := hrange ▸ List.mem_range.mpr (by omega)
    rcases List.mem_append.mp hmem with hmem | hmem
    · have hnone := hfewer leading hmem
      rw [hleading, Int.sub_self, find?_neighbours_zero tie hunits] at hnone
      cases hnone
    · rcases List.mem_cons.mp hmem with rfl | hmem
      · omega
      · have hless := List.rel_of_pairwise_cons (List.pairwise_append.mp hsorted).2.1 hmem
        omega
  · exact ⟨n, exactDecimal_equals n⟩

/-! ## Texts -/

/-- The digits of a whole number without zeros at their end, laid out plainly, are its digits. -/
theorem plainText_digits (n : Nat) :
    plainText .plain (withoutTrailingZeros (Text.digits n)) ((Text.digits n).length - 1 : Int) =
      Text.digits n := by
  obtain ⟨count, happend⟩ := exists_withoutTrailingZeros_append (Text.digits n)
  generalize withoutTrailingZeros (Text.digits n) = digits at happend ⊢
  have hlength := congrArg List.length happend
  rw [List.length_append, List.length_replicate] at hlength
  have hpositive := List.length_pos_iff.mpr (Text.digits_ne_nil n)
  have hwhole : ((Text.digits n).length - 1 : Int).toNat + 1 = digits.length + count := by omega
  rw [plainText, if_neg (by omega)]
  dsimp only
  rw [hwhole, if_neg (by omega), Nat.add_sub_cancel_left]
  exact (List.append_nil _).trans happend

/-- A decimal number that is whole has the digits of the whole number, apart from zeros at the end. -/
theorem Decimal.digits_of_equals {decimal : Decimal} {n : Nat} (hequals : decimal.Equals n)
    (hn : n ≠ 0) :
    withoutTrailingZeros (Text.digits decimal.digits) = withoutTrailingZeros (Text.digits n) ∧
      decimal.exponent + ((Text.digits decimal.digits).length - 1 : Int) =
        (Text.digits n).length - 1 := by
  obtain ⟨digits, exponent⟩ := decimal
  dsimp only [Equals] at hequals ⊢
  rcases Int.le_total 0 exponent with hexponent | hexponent
  · have hnegated : (-exponent).toNat = 0 := by omega
    have hone : Nat.pow 10 (-exponent).toNat = 1 := by rw [hnegated]
    rw [hone, Nat.mul_one] at hequals
    subst hequals
    have hdigits : digits ≠ 0 := fun hzero => hn (by rw [hzero, Nat.zero_mul])
    rw [Text.digits_mul_ten_pow hdigits, withoutTrailingZeros_append_zeros, List.length_append,
      List.length_replicate]
    exact ⟨rfl, by omega⟩
  · have hnegated : exponent.toNat = 0 := by omega
    have hone : Nat.pow 10 exponent.toNat = 1 := by rw [hnegated]
    rw [hone, Nat.mul_one] at hequals
    subst hequals
    rw [Text.digits_mul_ten_pow hn, withoutTrailingZeros_append_zeros, List.length_append,
      List.length_replicate]
    exact ⟨rfl, by omega⟩

/-- The magnitude nearest to a whole number is written as the numeral of a whole number that it is
nearest to as well. -/
theorem exists_magnitudeText_eq_digits {n : Nat} (hunits : IsMagnitude (roundUnits (n * one) 1)) :
    ∃ m, magnitudeText .plain (roundUnits (n * one) 1) = Text.digits m ∧
      roundUnits (m * one) 1 = roundUnits (n * one) 1 := by
  by_cases hn : n = 0
  · refine ⟨0, ?_, by rw [hn]⟩
    rw [hn, Nat.zero_mul, roundUnits_eq_self (Nat.dvd_zero _)]
    rfl
  have hnonzero := roundUnits_mul_one_ne_zero hn
  obtain ⟨whole, hwhole⟩ := one_dvd_roundUnits n
  rw [Nat.mul_comm one] at hwhole
  rw [hwhole] at hunits hnonzero ⊢
  have hwholeNonzero : whole ≠ 0 := fun hzero => hnonzero (by rw [hzero, Nat.zero_mul])
  obtain ⟨m, hequals⟩ := exists_shortest_equals .up hwholeNonzero hunits.2
  have hsame : roundUnits (m * one) 1 = whole * one :=
    (Decimal.units_eq_of_equals hequals).symm.trans (units_shortest .up hunits)
  have hm : m ≠ 0 := by
    rintro rfl
    rw [Nat.zero_mul, roundUnits_eq_self (Nat.dvd_zero _)] at hsame
    exact hnonzero hsame.symm
  obtain ⟨hdigits, hleading⟩ := Decimal.digits_of_equals hequals hm
  refine ⟨m, ?_, hsame⟩
  rw [magnitudeText, if_neg hnonzero]
  have hplain (leading : Int) : Layout.plain.isPlain leading = true := rfl
  dsimp only
  rw [hplain, if_pos rfl, Layout.plain, hdigits, hleading]
  exact plainText_digits m

/-- A whole number of at most 53 bits, or the first one of more, is written as itself. -/
theorem magnitudeText_eq_digits {n : Nat} (hn : n ≤ Nat.pow 2 53) :
    magnitudeText .plain (roundUnits (n * one) 1) = Text.digits n := by
  rcases Nat.lt_or_eq_of_le hn with hn | rfl
  · have hunits : IsMagnitude (roundUnits (n * one) 1) := by
      rw [roundUnits_eq_self (isMagnitude_mul_one hn).2]
      exact isMagnitude_mul_one hn
    obtain ⟨m, htext, hsame⟩ := exists_magnitudeText_eq_digits hunits
    rw [htext, eq_of_roundUnits_mul_one_eq hn hsame]
  · decide +kernel

/-! ## Numbers nearest to a whole number -/

/-- `x.IsNearest n`: the number is the one nearest to the whole number. Zero can have either sign. -/
def Finite.IsNearest (x : Finite) (n : Int) : Prop :=
  x.units = roundUnits (n.natAbs * one) 1 ∧ if x.negative then n ≤ 0 else 0 ≤ n

section reading

variable {x : Finite} {negative : Bool}

theorem eq_of_ofQuotient_eq_finite {numerator denominator : Nat}
    (hx : ofQuotient negative numerator denominator = .finite x) :
    x.negative = negative ∧ x.units = roundUnits numerator denominator := by
  unfold ofQuotient at hx
  split at hx
  · cases hx
    exact ⟨rfl, rfl⟩
  · cases hx

theorem isNearest_of_ofInt {n : Int} (hx : ofInt n = .finite x) : x.IsNearest n := by
  obtain ⟨hnegative, hunits⟩ := eq_of_ofQuotient_eq_finite hx
  refine ⟨hunits, ?_⟩
  rw [hnegative]
  simp only [decide_eq_true_eq]
  split <;> omega

theorem eq_of_ofDecimal_eq_finite {k : Nat} (hx : ofDecimal negative ⟨k, 0⟩ = .finite x) :
    x.negative = negative ∧ x.units = roundUnits (k * one) 1 := by
  unfold ofDecimal at hx
  dsimp only at hx
  split at hx
  · next hsmall =>
    have hk : k = 0 := by omega
    cases hx
    rw [hk, Nat.zero_mul, roundUnits_eq_self (Nat.dvd_zero _)]
    exact ⟨rfl, rfl⟩
  · rw [if_neg (by decide)] at hx
    have hequals : Decimal.Equals ⟨k, 0⟩ k := rfl
    obtain ⟨hnegative, hunits⟩ := eq_of_ofQuotient_eq_finite hx
    exact ⟨hnegative, hunits.trans (Decimal.units_eq_of_equals hequals)⟩

/-- Digits are read as a floating point number through the whole number that they make up. -/
theorem unsigned?_of_digits? {text : List Char} {k : Nat} (hk : Text.digits? text = some k) :
    unsigned? negative text = some (ofDecimal negative ⟨k, 0⟩) := by
  unfold Text.digits? at hk
  split at hk
  · cases hk
  next hdigits =>
  obtain rfl := Option.some.inj hk
  rw [Bool.or_eq_true, not_or, Bool.not_eq_true, Bool.not_eq_true, List.isEmpty_eq_false_iff,
    Bool.not_eq_false', List.all_eq_true] at hdigits
  obtain ⟨hne, hdigits⟩ := hdigits
  have hword (c : Char) (word : List Char) (hc : ¬c.isDigit) : text.map Char.toLower ≠ c :: word := by
    intro hmap
    obtain ⟨first, rest, rfl⟩ := List.exists_cons_of_ne_nil hne
    have hfirst := hdigits first (List.mem_cons_self ..)
    rw [List.map_cons, List.cons.injEq, Text.toLower_of_isDigit hfirst] at hmap
    exact hc (hmap.1 ▸ hfirst)
  have hdecimal := Decimal.decimal?_whole hdigits hne (by simp) (by simp) Decimal.exponent?_nil
  rw [List.append_nil] at hdecimal
  unfold unsigned?
  dsimp only
  rw [if_neg (not_or.mpr ⟨hword _ _ (by decide), hword _ _ (by decide)⟩),
    if_neg (hword _ _ (by decide)), hdecimal]
  rfl

theorem isNearest_of_unsigned? {text : List Char} {n : Int}
    (hn : Text.digits? text = some n.natAbs) (hsign : if negative then n ≤ 0 else 0 ≤ n)
    (hx : unsigned? negative text = some (.finite x)) : x.IsNearest n := by
  rw [unsigned?_of_digits? hn] at hx
  obtain ⟨rfl, hunits⟩ := eq_of_ofDecimal_eq_finite (Option.some.inj hx)
  exact ⟨hunits, hsign⟩

/-- A numeral is read as the floating point number nearest to its number. -/
theorem isNearest_of_ofText? {text : String} {n : Int} (hn : Text.numeral? text.toList = some n)
    (hx : ofText? text = some (.finite x)) : x.IsNearest n := by
  unfold ofText? at hx
  generalize text.toList = characters at hn hx
  unfold Text.numeral? at hn
  have hunsigned {digits : List Char} {k : Nat} (hk : Text.digits? digits = some k)
      (hx : unsigned? false digits = some (.finite x)) : x.IsNearest k := by
    refine isNearest_of_unsigned? hk ?_ hx
    rw [if_neg Bool.false_ne_true]
    exact Int.natCast_nonneg k
  -- Both readers tell the same signs apart.
  split at hn
  · next digits =>
    cases hk : Text.digits? digits with
    | none => simp [hk] at hn
    | some k =>
      obtain rfl : -(k : Int) = n := by simpa [hk] using hn
      refine isNearest_of_unsigned? (by rwa [Int.natAbs_neg]) ?_ hx
      rw [if_pos rfl]
      omega
  · next digits =>
    cases hk : Text.digits? digits with
    | none => simp [hk] at hn
    | some k =>
      obtain rfl : (k : Int) = n := by simpa [hk] using hn
      exact hunsigned hk hx
  · next hminus hplus =>
    cases hk : Text.digits? characters with
    | none => simp [hk] at hn
    | some k =>
      obtain rfl : (k : Int) = n := by simpa [hk] using hn
      split at hx
      · exact (hminus _ rfl).elim
      · exact (hplus _ rfl).elim
      · exact hunsigned hk hx

end reading

theorem ofQuotient_congr {numerator denominator other others : Nat} (negative : Bool)
    (hsame : roundUnits numerator denominator = roundUnits other others) :
    ofQuotient negative numerator denominator = ofQuotient negative other others := by
  simp only [ofQuotient, hsame]

namespace Finite.IsNearest

variable {x : Finite} {m n : Int}

theorem neg_of_neg (hm : x.IsNearest m) (hn : x.IsNearest n) (hneg : m < 0) : n < 0 := by
  have hnegative : x.negative = true := by
    by_contra hpositive
    have hsign := hm.2
    rw [if_neg hpositive] at hsign
    omega
  have hle := hn.2
  rw [if_pos hnegative] at hle
  have hnonzero : n ≠ 0 := by
    rintro rfl
    have hzero : x.units = 0 := by
      rw [hn.1, Int.natAbs_zero, Nat.zero_mul, roundUnits_eq_self (Nat.dvd_zero _)]
    exact roundUnits_mul_one_ne_zero (by omega) (hm.1 ▸ hzero)
  omega

/-- Whole numbers that one number is nearest to become the same number. -/
theorem ofInt_eq (hm : x.IsNearest m) (hn : x.IsNearest n) : ofInt m = ofInt n := by
  have hsign : decide (m < 0) = decide (n < 0) :=
    decide_eq_decide.mpr ⟨neg_of_neg hm hn, neg_of_neg hn hm⟩
  rw [ofInt, ofInt, hsign]
  exact ofQuotient_congr _ (hm.1.symm.trans hn.1)

/-- The number nearest to a whole number is written as a numeral of a number it is nearest to as
well, which is the given one as long as that has few bits. -/
theorem exists_numeral?_text (hn : x.IsNearest n) :
    ∃ m, Text.numeral? (x.text .plain) = some m ∧ x.IsNearest m ∧ (n.natAbs ≤ Nat.pow 2 53 → m = n) := by
  obtain ⟨negative, units, hunits⟩ := x
  obtain ⟨rfl, hsign⟩ := hn
  dsimp only at hsign
  obtain ⟨k, htext, hsame⟩ := exists_magnitudeText_eq_digits hunits
  have hexact (hfew : n.natAbs ≤ Nat.pow 2 53) : k = n.natAbs :=
    Text.digits_injective (htext.symm.trans (magnitudeText_eq_digits hfew))
  cases negative with
  | true =>
    refine ⟨-k, ?_, ⟨?_, ?_⟩, fun hfew => ?_⟩
    · rw [text, if_pos rfl, htext, List.singleton_append, Text.numeral?, Text.digits?_digits]
      rfl
    · rw [Int.natAbs_neg, Int.natAbs_natCast, hsame]
    · show -(k : Int) ≤ 0
      omega
    · rw [hexact hfew, Int.ofNat_natAbs_of_nonpos hsign, Int.neg_neg]
  | false =>
    refine ⟨k, ?_, ⟨?_, ?_⟩, fun hfew => ?_⟩
    · rw [text, if_neg Bool.false_ne_true, htext, List.nil_append, Text.numeral?_digits]
    · rw [Int.natAbs_natCast, hsame]
    · exact Int.natCast_nonneg k
    · rw [hexact hfew, Int.natAbs_of_nonneg hsign]

end Finite.IsNearest

end Binary64

end QueryModel
