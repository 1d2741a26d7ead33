import Mathlib.Data.List.TakeWhile
import QueryModel.Binary64.Layout
import QueryModel.Proofs.Text.Delimited

/-! # Floating point text is read back

A text of a finite number, in whatever layout, is a decimal number that the number is nearest to.
Main statement: what is written for a magnitude is read as that magnitude.
-/

namespace QueryModel

namespace Text

theorem numeral?_digits (n : Nat) : numeral? (digits n) = some (n : Int) := by
  have hminus : ∀ rest, digits n ≠ '-' :: rest := by
    intro rest hdigits
    have hdigit : '-'.isDigit := isDigit_of_mem_digits (n := n) (by simp [hdigits])
    exact absurd hdigit (by decide)
  have hplus : ∀ rest, digits n ≠ '+' :: rest := by
    intro rest hdigits
    have hdigit : '+'.isDigit := isDigit_of_mem_digits (n := n) (by simp [hdigits])
    exact absurd hdigit (by decide)
  rw [numeral?, digits?_digits]
  · rfl
  · exact hminus
  · exact hplus

theorem numeral?_numeral (n : Int) : numeral? (numeral n) = some n := by
  cases n with
  | ofNat n => exact numeral?_digits n
  | negSucc n =>
    rw [numeral, numeral?, digits?_digits]
    rfl

theorem numeral?_plus_numeral {n : Int} (hn : 0 ≤ n) : numeral? ('+' :: numeral n) = some n := by
  cases n with
  | ofNat n =>
    rw [numeral, numeral?, digits?_digits]
    rfl
  | negSucc n => exact absurd hn (by omega)

theorem ofDigits_append_zeros (digits : List Char) (count : Nat) :
    ofDigits (digits ++ List.replicate count '0') = ofDigits digits * Nat.pow 10 count := by
  rw [ofDigits, Nat.ofDigitChars_append, Nat.ofDigitChars_replicate_zero, Nat.mul_comm]
  rfl

theorem ofDigits_zeros_append (digits : List Char) (count : Nat) :
    ofDigits (List.replicate count '0' ++ digits) = ofDigits digits := by
  rw [ofDigits, Nat.ofDigitChars_append, Nat.ofDigitChars_replicate_zero, Nat.mul_zero]
  rfl

end Text

namespace Binary64

/-! ## Decimal numbers -/

namespace Decimal

/-- Zeros at the end of the digits can be moved into the exponent. -/
theorem units_mul_ten_pow (digits shift : Nat) (exponent : Int) :
    units ⟨digits * Nat.pow 10 shift, exponent⟩ = units ⟨digits, exponent + shift⟩ := by
  let factor : Nat := (-exponent).toNat - (-(exponent + shift)).toNat
  have hfactor : 0 < Nat.pow 10 factor := Nat.pow_pos (by decide)
  have hdenominator : denominator ⟨digits * Nat.pow 10 shift, exponent⟩ =
      denominator ⟨digits, exponent + shift⟩ * Nat.pow 10 factor := by
    simp only [denominator, Nat.pow_eq, ← Nat.pow_add]
    congr 1
    omega
  have hnumerator : numerator ⟨digits * Nat.pow 10 shift, exponent⟩ =
      numerator ⟨digits, exponent + shift⟩ * Nat.pow 10 factor := by
    have hpower : 10 ^ shift * 10 ^ exponent.toNat =
        10 ^ (exponent + shift).toNat * 10 ^ factor := by
      rw [← Nat.pow_add, ← Nat.pow_add]
      congr 1
      omega
    simp only [numerator, Nat.pow_eq]
    rw [Nat.mul_right_comm _ one, Nat.mul_assoc digits, Nat.mul_assoc digits, hpower]
    simp only [Nat.mul_assoc]
  rw [units, hnumerator, hdenominator, roundUnits_mul_right hfactor, units]

theorem units_zero (exponent : Int) : units ⟨0, exponent⟩ = 0 := by
  have hpositive : 0 < denominator ⟨0, exponent⟩ * spacing 0 :=
    Nat.mul_pos (denominator_pos _) (Nat.two_pow_pos _)
  simp [units, numerator, roundUnits, nearestEven, hpositive]

/-! ## Texts -/

section texts

variable {whole fraction tail : List Char} {exponent : Int}

theorem exponent?_nil : exponent? [] = some 0 := rfl

theorem decimal?_whole (hwhole : ∀ c ∈ whole, c.isDigit) (hne : whole ≠ [])
    (htail : ∀ c ∈ tail.head?, c.isDigit = false) (hpoint : tail.head? ≠ some '.')
    (hexponent : exponent? tail = some exponent) :
    decimal? (whole ++ tail) = some ⟨Text.ofDigits whole, exponent⟩ := by
  have hempty : whole.isEmpty = false := List.isEmpty_eq_false_iff.mpr hne
  simp [decimal?, Parts.ofText?, Text.takeWhile_run hwhole htail, Text.dropWhile_run hwhole htail,
    hpoint, hempty, hexponent, Parts.decimal]

theorem decimal?_point (hwhole : ∀ c ∈ whole, c.isDigit) (hne : whole ≠ [])
    (hfraction : ∀ c ∈ fraction, c.isDigit) (htail : ∀ c ∈ tail.head?, c.isDigit = false)
    (hexponent : exponent? tail = some exponent) :
    decimal? (whole ++ '.' :: (fraction ++ tail)) =
      some ⟨Text.ofDigits (whole ++ fraction), exponent - fraction.length⟩ := by
  have hempty : whole.isEmpty = false := List.isEmpty_eq_false_iff.mpr hne
  have hpoint : ∀ c ∈ ('.' :: (fraction ++ tail)).head?, c.isDigit = false := by
    rintro _ ⟨⟩
    decide
  simp [decimal?, Parts.ofText?, Text.takeWhile_run hwhole hpoint, Text.dropWhile_run hwhole hpoint,
    Text.takeWhile_run hfraction htail, Text.dropWhile_run hfraction htail, hempty, hexponent,
    Parts.decimal]

end texts

end Decimal

/-! ## Layouts -/

/-- The zeros that are taken from the end of digits can be put back. -/
theorem exists_withoutTrailingZeros_append (digits : List Char) :
    ∃ count, withoutTrailingZeros digits ++ List.replicate count '0' = digits := by
  let zeros := digits.reverse.takeWhile (· == '0')
  have hzeros : zeros = List.replicate zeros.length '0' := by
    refine List.eq_replicate_of_mem fun c hc => ?_
    exact eq_of_beq (List.mem_takeWhile_imp (p := (· == '0')) hc)
  have hreverse : zeros.reverse = zeros := by
    rw [hzeros, List.reverse_replicate]
  refine ⟨zeros.length, ?_⟩
  rw [← hzeros, ← hreverse]
  change (List.dropWhile _ _).reverse ++ (List.takeWhile _ _).reverse = _
  rw [← List.reverse_append, List.takeWhile_append_dropWhile, List.reverse_reverse]

/-- Taking zeros from the end of the digits of a number leaves the digits of the same number, with
another exponent. -/
private theorem units_withoutTrailingZeros {number : Nat} (exponent : Int) (hnumber : number ≠ 0) :
    let digits := withoutTrailingZeros (Text.digits number)
    (∀ c ∈ digits, c.isDigit) ∧ digits ≠ [] ∧
      Decimal.units ⟨Text.ofDigits digits,
        exponent + ((Text.digits number).length - 1 : Int) + 1 - digits.length⟩ =
        Decimal.units ⟨number, exponent⟩ := by
  intro digits
  obtain ⟨count, (happend : digits ++ _ = _)⟩ :=
    exists_withoutTrailingZeros_append (Text.digits number)
  have hvalue : number = Text.ofDigits digits * Nat.pow 10 count := by
    rw [← Text.ofDigits_append_zeros, happend, Text.ofDigits_digits]
  refine ⟨fun c hc => ?_, ?_, ?_⟩
  · refine Text.isDigit_of_mem_digits (n := number) ?_
    rw [← happend]
    exact List.mem_append_left _ hc
  · intro hnil
    rw [hnil] at hvalue
    exact hnumber (hvalue.trans (Nat.zero_mul _))
  · have hlength := congrArg List.length happend
    rw [List.length_append, List.length_replicate] at hlength
    conv => rhs; rw [hvalue, Decimal.units_mul_ten_pow]
    congr 2
    omega

section layouts

variable {digits : List Char} {leading : Int}

theorem isDigit_of_mem_append_zeros (hdigits : ∀ c ∈ digits, c.isDigit) (count : Nat) :
    ∀ c ∈ digits ++ List.replicate count '0', c.isDigit := by
  refine List.forall_mem_append.mpr ⟨hdigits, fun c hc => ?_⟩
  rw [List.eq_of_mem_replicate hc]
  decide

/-- Digits behind zeros behind a point. -/
theorem units_belowOne (hdigits : ∀ c ∈ digits, c.isDigit) (zeros : Nat) :
    (decimal? (['0', '.'] ++ List.replicate zeros '0' ++ digits)).map Decimal.units =
      some (Decimal.units ⟨Text.ofDigits digits, -(zeros + digits.length : Nat)⟩) := by
  have htext : ['0', '.'] ++ List.replicate zeros '0' ++ digits =
      ['0'] ++ '.' :: ((List.replicate zeros '0' ++ digits) ++ []) := by
    simp
  have hzeros : ∀ c ∈ List.replicate zeros '0', c.isDigit :=
    isDigit_of_mem_append_zeros (List.forall_mem_nil _) zeros
  have hfraction := List.forall_mem_append.mpr ⟨hzeros, hdigits⟩
  rw [htext, Decimal.decimal?_point (List.all_eq_true.mp rfl) (by simp) hfraction (by simp)
    Decimal.exponent?_nil, Option.map_some, ← List.append_assoc, List.length_append,
    List.length_replicate]
  congr 3
  · exact Text.ofDigits_zeros_append digits (zeros + 1)
  · omega

/-- Digits with a point among them. -/
theorem units_pointInside (hdigits : ∀ c ∈ digits, c.isDigit) (hne : digits ≠ []) (whole : Nat) :
    (decimal? (digits.take (whole + 1) ++ ['.'] ++ digits.drop (whole + 1))).map Decimal.units =
      some (Decimal.units
        ⟨Text.ofDigits digits, -(digits.length - (whole + 1) : Nat)⟩) := by
  have htext : digits.take (whole + 1) ++ ['.'] ++ digits.drop (whole + 1) =
      digits.take (whole + 1) ++ '.' :: (digits.drop (whole + 1) ++ []) := by
    simp
  rw [htext, Decimal.decimal?_point (fun c hc => hdigits c (List.mem_of_mem_take hc))
    (by simp [hne]) (fun c hc => hdigits c (List.mem_of_mem_drop hc)) (by simp)
    Decimal.exponent?_nil, Option.map_some, List.take_append_drop, List.length_drop]
  congr 3
  omega

/-- Digits before zeros, with or without a point and a zero behind them. -/
theorem units_whole (hdigits : ∀ c ∈ digits, c.isDigit) (hne : digits ≠ []) (zeros : Nat)
    (point : Bool) :
    (decimal? (digits ++ List.replicate zeros '0' ++ if point then ['.', '0'] else [])).map
        Decimal.units =
      some (Decimal.units ⟨Text.ofDigits digits, zeros⟩) := by
  have hwhole := isDigit_of_mem_append_zeros hdigits zeros
  cases point with
  | true =>
    rw [if_pos rfl, ← List.append_nil ['.', '0'], List.cons_append,
      Decimal.decimal?_point hwhole (by simp [hne]) (List.all_eq_true.mp rfl) (by simp)
        Decimal.exponent?_nil, Option.map_some, List.append_assoc, ← List.replicate_succ',
      Text.ofDigits_append_zeros, Decimal.units_mul_ten_pow]
    congr 3
    simp only [List.length_singleton]
    omega
  | false =>
    rw [if_neg Bool.false_ne_true,
      Decimal.decimal?_whole hwhole (by simp [hne]) (by simp) (by simp) Decimal.exponent?_nil,
      Option.map_some, Text.ofDigits_append_zeros, Decimal.units_mul_ten_pow, Int.zero_add]

theorem units_plainText (layout : Layout) (hdigits : ∀ c ∈ digits, c.isDigit)
    (hne : digits ≠ []) :
    (decimal? (plainText layout digits leading)).map Decimal.units =
      some (Decimal.units ⟨Text.ofDigits digits, leading + 1 - digits.length⟩) := by
  unfold plainText
  split
  · next hleading =>
    rw [units_belowOne hdigits]
    congr 3
    omega
  · next hleading =>
    dsimp only
    split
    · next hlength =>
      rw [units_pointInside hdigits hne]
      congr 3
      omega
    · next hlength =>
      rw [units_whole hdigits hne]
      congr 3
      omega

theorem units_exponentText (layout : Layout) (hdigits : ∀ c ∈ digits, c.isDigit)
    (hne : digits ≠ []) :
    (decimal? (exponentText layout digits leading)).map Decimal.units =
      some (Decimal.units ⟨Text.ofDigits digits, leading + 1 - digits.length⟩) := by
  obtain ⟨first, fraction, rfl⟩ := List.exists_cons_of_ne_nil hne
  rw [List.forall_mem_cons] at hdigits
  obtain ⟨hfirst, hfraction⟩ := hdigits
  let sign : List Char := if layout.plusSign && 0 ≤ leading then ['+'] else []
  have hexponent : exponent? ('e' :: (sign ++ Text.numeral leading)) = some leading := by
    rw [exponent?, if_pos (Or.inl rfl)]
    show Text.numeral? ((if layout.plusSign && 0 ≤ leading then ['+'] else []) ++ _) = _
    split
    · next hsign =>
      rw [Bool.and_eq_true, decide_eq_true_eq] at hsign
      exact Text.numeral?_plus_numeral hsign.2
    · exact Text.numeral?_numeral leading
  have hhead : ∀ c ∈ ('e' :: (sign ++ Text.numeral leading)).head?, c.isDigit = false := by
    rintro _ ⟨⟩
    decide
  have htext : exponentText layout (first :: fraction) leading =
      [first] ++ ((if fraction.isEmpty then [] else '.' :: fraction) ++
        'e' :: (sign ++ Text.numeral leading)) := by
    simp [exponentText, sign]
  rw [htext]
  cases fraction with
  | nil =>
    rw [List.isEmpty_nil, if_pos rfl, List.nil_append,
      Decimal.decimal?_whole (by simpa using hfirst) (by simp) hhead (by simp) hexponent]
    simp
  | cons second rest =>
    change (decimal? ([first] ++ '.' :: ((second :: rest) ++ _))).map _ = _
    rw [Decimal.decimal?_point (by simpa using hfirst) (by simp) hfraction hhead hexponent,
      Option.map_some]
    congr 3
    simp only [List.length_cons]
    omega

end layouts

/-- The text of a magnitude is laid out in one of two ways, from digits that make it up. -/
theorem magnitudeText_cases (layout : Layout) {units : Nat} (hunits : IsMagnitude units) :
    ∃ digits leading, (∀ c ∈ digits, c.isDigit) ∧ digits ≠ [] ∧
      Decimal.units ⟨Text.ofDigits digits, leading + 1 - digits.length⟩ = units ∧
        (magnitudeText layout units = plainText layout digits leading ∨
          magnitudeText layout units = exponentText layout digits leading) := by
  unfold magnitudeText
  split
  · next hzero =>
    subst hzero
    exact ⟨['0'], 0, List.all_eq_true.mp rfl, by simp, Decimal.units_zero _, Or.inl rfl⟩
  · next hzero =>
    have hshortest := units_shortest layout.tie hunits
    generalize shortest layout.tie units = decimal at hshortest ⊢
    obtain ⟨number, exponent⟩ := decimal
    have hnumber : number ≠ 0 := by
      rintro rfl
      exact hzero (hshortest.symm.trans (Decimal.units_zero exponent))
    obtain ⟨hdigits, hne, hsame⟩ := units_withoutTrailingZeros exponent hnumber
    refine ⟨_, _, hdigits, hne, hsame.trans hshortest, ?_⟩
    dsimp only
    split
    · exact Or.inl rfl
    · exact Or.inr rfl

/-- What is written for a magnitude is read as the magnitude. -/
theorem units_magnitudeText (layout : Layout) {units : Nat} (hunits : IsMagnitude units) :
    (decimal? (magnitudeText layout units)).map Decimal.units = some units := by
  obtain ⟨digits, leading, hdigits, hne, hsame, htext | htext⟩ := magnitudeText_cases layout hunits
  · rw [htext, units_plainText layout hdigits hne, hsame]
  · rw [htext, units_exponentText layout hdigits hne, hsame]

/-! ## Characters -/

/-- Whether a character can stand in the text of a number. -/
def isNumeric (c : Char) : Bool := c.isDigit || c == '-' || c == '.' || c == 'e' || c == '+'

theorem isNumeric_of_isDigit {c : Char} (hc : c.isDigit) : isNumeric c := by
  simp [isNumeric, hc]

theorem isNumeric_of_mem_numeral {n : Int} {c : Char} (hc : c ∈ Text.numeral n) : isNumeric c := by
  cases n with
  | ofNat n => exact isNumeric_of_isDigit (Text.isDigit_of_mem_digits hc)
  | negSucc n =>
    rcases List.mem_cons.mp hc with rfl | hc
    · decide
    · exact isNumeric_of_isDigit (Text.isDigit_of_mem_digits hc)

section characters

variable {digits : List Char} {leading : Int} (layout : Layout)

theorem isNumeric_of_mem_plainText (hdigits : ∀ c ∈ digits, c.isDigit) :
    ∀ c ∈ plainText layout digits leading, isNumeric c := by
  have hnumeric : ∀ c ∈ digits, isNumeric c := fun c hc => isNumeric_of_isDigit (hdigits c hc)
  have hzeros (count : Nat) : ∀ c ∈ List.replicate count '0', isNumeric c := by
    intro c hc
    rw [List.eq_of_mem_replicate hc]
    decide
  unfold plainText
  dsimp only
  split
  · simp only [List.forall_mem_append]
    exact ⟨⟨List.all_eq_true.mp rfl, hzeros _⟩, hnumeric⟩
  · split
    · simp only [List.forall_mem_append]
      exact ⟨⟨fun c hc => hnumeric c (List.mem_of_mem_take hc), List.all_eq_true.mp rfl⟩,
        fun c hc => hnumeric c (List.mem_of_mem_drop hc)⟩
    · simp only [List.forall_mem_append]
      refine ⟨⟨hnumeric, hzeros _⟩, ?_⟩
      split <;> exact List.all_eq_true.mp rfl

theorem isNumeric_of_mem_exponentText (hdigits : ∀ c ∈ digits, c.isDigit) :
    ∀ c ∈ exponentText layout digits leading, isNumeric c := by
  have hnumeric : ∀ c ∈ digits, isNumeric c := fun c hc => isNumeric_of_isDigit (hdigits c hc)
  unfold exponentText
  simp only [List.forall_mem_append]
  refine ⟨⟨⟨⟨fun c hc => hnumeric c (List.mem_of_mem_take hc), ?_⟩, List.all_eq_true.mp rfl⟩,
    ?_⟩, fun c hc => isNumeric_of_mem_numeral hc⟩
  · split
    · simp
    · rw [List.forall_mem_cons]
      exact ⟨by decide, fun c hc => hnumeric c (List.mem_of_mem_drop hc)⟩
  · split <;> exact List.all_eq_true.mp rfl

theorem isNumeric_of_mem_magnitudeText {units : Nat} (hunits : IsMagnitude units) :
    ∀ c ∈ magnitudeText layout units, isNumeric c := by
  obtain ⟨digits, leading, hdigits, -, -, htext | htext⟩ := magnitudeText_cases layout hunits
  · rw [htext]
    exact isNumeric_of_mem_plainText layout hdigits
  · rw [htext]
    exact isNumeric_of_mem_exponentText layout hdigits

/-- A magnitude is written with a digit first. -/
theorem head?_magnitudeText {units : Nat} (hunits : IsMagnitude units) :
    ∃ first rest, magnitudeText layout units = first :: rest ∧ first.isDigit := by
  obtain ⟨digits, leading, hdigits, hne, -, htext⟩ := magnitudeText_cases layout hunits
  obtain ⟨first, rest, rfl⟩ := List.exists_cons_of_ne_nil hne
  have hfirst := hdigits first (List.mem_cons_self ..)
  rcases htext with htext | htext
  · rw [htext]
    unfold plainText
    dsimp only
    split
    · exact ⟨'0', _, rfl, by decide⟩
    · split
      · exact ⟨first, _, rfl, hfirst⟩
      · exact ⟨first, _, rfl, hfirst⟩
  · exact ⟨first, _, htext, hfirst⟩

/-- A layout that keeps the point of a whole number writes no magnitude as one. -/
theorem point_or_exponent_mem_magnitudeText (hlayout : layout.pointAfterWhole = true) {units : Nat}
    (hunits : IsMagnitude units) :
    '.' ∈ magnitudeText layout units ∨ 'e' ∈ magnitudeText layout units := by
  obtain ⟨digits, leading, -, -, -, htext | htext⟩ := magnitudeText_cases layout hunits
  · left
    rw [htext]
    unfold plainText
    rw [hlayout, if_pos rfl]
    dsimp only
    split
    · simp
    · split <;> simp
  · right
    rw [htext]
    simp [exponentText]

end characters

/-- Different finite numbers have different texts. -/
theorem Finite.text_injective (layout : Layout) : Function.Injective (Finite.text layout) := by
  rintro ⟨negative, units, hunits⟩ ⟨otherNegative, others, hothers⟩ hsame
  obtain ⟨first, rest, htext, hfirst⟩ := head?_magnitudeText layout hunits
  obtain ⟨otherFirst, otherRest, hother, hotherFirst⟩ := head?_magnitudeText layout hothers
  have hmagnitude (hmagnitude : magnitudeText layout units = magnitudeText layout others) :
      units = others := by
    have hread := units_magnitudeText layout hothers
    rw [← hmagnitude, units_magnitudeText layout hunits] at hread
    exact Option.some.inj hread
  have hminus : ¬ '-'.isDigit := by decide
  cases negative <;> cases otherNegative
  · obtain rfl := hmagnitude hsame
    rfl
  · rw [Finite.text, Finite.text, htext] at hsame
    exact (hminus (List.head_eq_of_cons_eq hsame ▸ hfirst)).elim
  · rw [Finite.text, Finite.text, hother] at hsame
    exact (hminus (List.head_eq_of_cons_eq hsame ▸ hotherFirst)).elim
  · obtain rfl := hmagnitude (List.tail_eq_of_cons_eq hsame)
    rfl

end Binary64

end QueryModel
