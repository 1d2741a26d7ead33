import Mathlib.Data.List.DropRight
import QueryModel.Json.Number
import QueryModel.Proofs.Binary64.ReadBack
import QueryModel.Proofs.Json.Lexing

/-! # The texts of numbers

The text of a number is one that a lexer reads to its end. It is read back as the number, if the
number fits 64 bits, or if it is a floating point number whose digits are read as the magnitude that
is nearest to them.
-/

namespace QueryModel

namespace Text

/-- A number other than zero has no leading zero. -/
theorem head?_digits_ne_zero {n : Nat} (hn : n ≠ 0) : (digits n).head? ≠ some '0' := by
  have hsmall : ∀ n < 10, n ≠ 0 → [n.digitChar].head? ≠ some '0' := by decide
  induction n using Nat.strongRecOn with
  | ind n ih =>
    unfold digits
    rw [Nat.toDigits_eq_if (by decide)]
    split
    · next hless => exact hsmall n hless hn
    · next hless =>
      have hquotient := ih (n / 10) (by omega) (by omega)
      have hne := digits_ne_nil (n / 10)
      obtain ⟨first, rest, hdigits⟩ := List.exists_cons_of_ne_nil hne
      unfold digits at hdigits hquotient
      rw [hdigits] at hquotient ⊢
      exact hquotient

end Text

namespace Json

/-! ## Lexers read numbers -/

namespace NumberPart

variable {part : NumberPart} {digits text : List Char}

theorem run?_append (part : NumberPart) (left right : List Char) :
    part.run? (left ++ right) = (part.run? left).bind fun next => next.run? right := by
  induction left generalizing part with
  | nil => rfl
  | cons c rest ih =>
    simp only [List.cons_append, run?, Option.bind_assoc]
    exact congrArg _ (funext ih)

/-- Digits where digits lead nowhere else. -/
theorem run?_digits (hstay : ∀ c : Char, c.isDigit → part.next? c = some part)
    (hdigits : ∀ c ∈ digits, c.isDigit) : part.run? digits = some part := by
  induction digits with
  | nil => rfl
  | cons c rest ih =>
    obtain ⟨hc, hrest⟩ := List.forall_mem_cons.mp hdigits
    rw [run?, hstay c hc, Option.bind_some, ih hrest]

/-- Digits the first of which leads somewhere else. -/
theorem run?_someDigits {next : NumberPart} (hfirst : ∀ c ∈ digits.head?, part.next? c = some next)
    (hstay : ∀ c : Char, c.isDigit → next.next? c = some next) (hdigits : ∀ c ∈ digits, c.isDigit)
    (hne : digits ≠ []) : part.run? digits = some next := by
  obtain ⟨first, rest, rfl⟩ := List.exists_cons_of_ne_nil hne
  rw [run?, hfirst first rfl, Option.bind_some]
  exact run?_digits hstay (List.forall_mem_cons.mp hdigits).2

theorem next?_digit {c : Char} (hc : c.isDigit) :
    next? .whole c = some .whole ∧ next? .point c = some .fraction ∧
      next? .fraction c = some .fraction ∧ next? .exponentMark c = some .exponent ∧
        next? .exponentSign c = some .exponent ∧ next? .exponent c = some .exponent := by
  have hplus : c ≠ '+' := by rintro rfl; cases hc
  have hminus : c ≠ '-' := by rintro rfl; cases hc
  simp [next?, hc, hplus, hminus]

section digits

variable (hdigits : ∀ c ∈ digits, c.isDigit)

include hdigits

/-- Digits that begin with no zero. -/
theorem run?_sign (hne : digits ≠ []) (hzero : digits.head? ≠ some '0') :
    run? .sign digits = some .whole := by
  refine run?_someDigits (fun c hc => ?_) (fun c hc => (next?_digit hc).1) hdigits hne
  have hdigit := hdigits c (List.mem_of_mem_head? hc)
  have hne : c ≠ '0' := by
    rintro rfl
    exact hzero hc
  simp [next?, hdigit, hne]

/-- A point and the digits behind it. -/
theorem run?_point (hpart : part.next? '.' = some .point) (hne : digits ≠ []) :
    part.run? ('.' :: digits) = some .fraction := by
  rw [run?, hpart, Option.bind_some]
  exact run?_someDigits (fun c hc => (next?_digit (hdigits c (List.mem_of_mem_head? hc))).2.1)
    (fun _ hc => (next?_digit hc).2.2.1) hdigits hne

theorem run?_exponentMark (hne : digits ≠ []) : run? .exponentMark digits = some .exponent :=
  run?_someDigits
    (fun c hc => (next?_digit (hdigits c (List.mem_of_mem_head? hc))).2.2.2.1)
    (fun _ hc => (next?_digit hc).2.2.2.2.2) hdigits hne

theorem run?_exponentSign (hne : digits ≠ []) : run? .exponentSign digits = some .exponent :=
  run?_someDigits
    (fun c hc => (next?_digit (hdigits c (List.mem_of_mem_head? hc))).2.2.2.2.1)
    (fun _ hc => (next?_digit hc).2.2.2.2.2) hdigits hne

end digits

/-- An exponent, with or without a sign. -/
theorem run?_exponent (hpart : part.next? 'e' = some .exponentMark) (plus : Bool) {n : Int}
    (hplus : plus → 0 ≤ n) :
    part.run? ('e' :: ((if plus then ['+'] else []) ++ Text.numeral n)) = some .exponent := by
  have hdigits (k : Nat) : ∀ c ∈ Text.digits k, c.isDigit := fun c hc =>
    Text.isDigit_of_mem_digits hc
  rw [run?, hpart, Option.bind_some]
  cases n with
  | ofNat k =>
    cases plus with
    | true => exact run?_exponentSign (hdigits k) (Text.digits_ne_nil k)
    | false => exact run?_exponentMark (hdigits k) (Text.digits_ne_nil k)
  | negSucc k =>
    cases plus with
    | true => exact absurd (hplus rfl) (by omega)
    | false => exact run?_exponentSign (hdigits _) (Text.digits_ne_nil _)

end NumberPart

/-- A text that is read as a number without a sign. -/
def IsUnsignedText (text : List Char) : Prop :=
  ∃ last, NumberPart.run? .sign text = some last ∧ last.isComplete

namespace IsUnsignedText

variable {text : List Char}

/-- With a minus sign, a number is still one. -/
theorem minus (htext : IsUnsignedText text) : IsNumberText ('-' :: text) := by
  obtain ⟨last, hrun, hlast⟩ := htext
  exact ⟨'-', text, .sign, last, rfl, rfl, hrun, hlast⟩

/-- A number without a sign is a number. -/
theorem isNumberText (htext : IsUnsignedText text) : IsNumberText text := by
  obtain ⟨last, hrun, hlast⟩ := htext
  cases text with
  | nil =>
    cases hrun
    cases hlast
  | cons first rest =>
    obtain ⟨part, hpart, hrest⟩ := Option.bind_eq_some_iff.mp hrun
    refine ⟨first, rest, part, last, rfl, ?_, hrest, hlast⟩
    have hminus : first ≠ '-' := by
      rintro rfl
      cases hpart
    rw [NumberPart.first?, if_neg hminus, hpart]

end IsUnsignedText

theorem isUnsignedText_digits (n : Nat) : IsUnsignedText (Text.digits n) := by
  by_cases hn : n = 0
  · subst hn
    exact ⟨.zero, rfl, rfl⟩
  · exact ⟨.whole, NumberPart.run?_sign (fun c hc => Text.isDigit_of_mem_digits hc)
      (Text.digits_ne_nil n) (Text.head?_digits_ne_zero hn), rfl⟩

theorem isNumberText_numeral (n : Int) : IsNumberText (Text.numeral n) := by
  cases n with
  | ofNat n => exact (isUnsignedText_digits n).isNumberText
  | negSucc n => exact (isUnsignedText_digits (n + 1)).minus

/-! ### Floating point text -/

section layouts

open Binary64 NumberPart

variable {layout : Layout} {digits : List Char} {leading : Int}

theorem isUnsignedText_plainText (hlayout : layout.pointAfterWhole = true)
    (hdigits : ∀ c ∈ digits, c.isDigit) (hne : digits ≠ []) (hzero : digits.head? ≠ some '0') :
    IsUnsignedText (plainText layout digits leading) := by
  have hzeros (count : Nat) : ∀ c ∈ List.replicate count '0', c.isDigit := fun c hc => by
    rw [List.eq_of_mem_replicate hc]
    decide
  refine ⟨.fraction, ?_, rfl⟩
  unfold plainText
  dsimp only
  split
  · rw [List.append_assoc]
    change run? .zero ('.' :: (List.replicate (-leading - 1).toNat '0' ++ digits)) = _
    exact run?_point (List.forall_mem_append.mpr ⟨hzeros _, hdigits⟩) rfl (by simp [hne])
  · split
    · next hlength =>
      have htake : run? .sign (digits.take (leading.toNat + 1)) = some .whole := by
        refine run?_sign (fun c hc => hdigits c (List.mem_of_mem_take hc)) (by simp [hne]) ?_
        rwa [List.head?_take, if_neg (by omega)]
      rw [List.append_assoc, run?_append, htake, Option.bind_some, List.singleton_append]
      refine run?_point (fun c hc => hdigits c (List.mem_of_mem_drop hc)) rfl ?_
      exact List.ne_nil_of_length_pos (by rw [List.length_drop]; omega)
    · have hwhole : run? .sign (digits ++ List.replicate (leading.toNat + 1 - digits.length) '0') =
          some .whole := by
        refine run?_sign (List.forall_mem_append.mpr ⟨hdigits, hzeros _⟩) (by simp [hne]) ?_
        rwa [List.head?_append_of_ne_nil _ hne]
      rw [run?_append, hwhole]
      rfl

theorem isUnsignedText_exponentText (hdigits : ∀ c ∈ digits, c.isDigit) (hne : digits ≠ [])
    (hzero : digits.head? ≠ some '0') : IsUnsignedText (exponentText layout digits leading) := by
  obtain ⟨first, fraction, rfl⟩ := List.exists_cons_of_ne_nil hne
  obtain ⟨hfirst, hfraction⟩ := List.forall_mem_cons.mp hdigits
  have hwhole : run? .sign [first] = some .whole :=
    run?_sign (by simpa using hfirst) (by simp) hzero
  have hplus : (layout.plusSign && 0 ≤ leading) → 0 ≤ leading := fun hsign => by
    simpa using (Bool.and_eq_true_iff.mp hsign).2
  refine ⟨.exponent, ?_, rfl⟩
  have htext : exponentText layout (first :: fraction) leading =
      [first] ++ ((if fraction.isEmpty then [] else '.' :: fraction) ++
        'e' :: ((if layout.plusSign && 0 ≤ leading then ['+'] else []) ++
          Text.numeral leading)) := by
    simp [exponentText]
  rw [htext, run?_append, hwhole, Option.bind_some, run?_append]
  cases fraction with
  | nil =>
    have hmark : NumberPart.whole.next? 'e' = some .exponentMark := rfl
    exact run?_exponent hmark _ hplus
  | cons second rest =>
    have hmark : NumberPart.fraction.next? 'e' = some .exponentMark := rfl
    rw [List.isEmpty_cons, if_neg Bool.false_ne_true, run?_point hfraction rfl (by simp)]
    exact run?_exponent hmark _ hplus

/-- Taking zeros from the end keeps the leading digit. -/
theorem withoutTrailingZeros_spec (hdigits : ∀ c ∈ digits, c.isDigit) (hne : digits ≠ [])
    (hzero : digits.head? ≠ some '0') :
    (∀ c ∈ withoutTrailingZeros digits, c.isDigit) ∧ withoutTrailingZeros digits ≠ [] ∧
      (withoutTrailingZeros digits).head? ≠ some '0' := by
  have hinit : withoutTrailingZeros digits <+: digits := List.rdropWhile_prefix _ _
  obtain ⟨first, rest, rfl⟩ := List.exists_cons_of_ne_nil hne
  have hkept : withoutTrailingZeros (first :: rest) ≠ [] := by
    intro hnil
    have hfirst := List.rdropWhile_eq_nil_iff.mp hnil first (List.mem_cons_self ..)
    exact hzero (congrArg some (eq_of_beq hfirst))
  refine ⟨fun c hc => hdigits c (hinit.subset hc), hkept, ?_⟩
  obtain ⟨zeros, happend⟩ := hinit
  rwa [← happend, List.head?_append_of_ne_nil _ hkept] at hzero

theorem isUnsignedText_magnitudeText (hlayout : layout.pointAfterWhole = true) {units : Nat}
    (hunits : IsMagnitude units) : IsUnsignedText (magnitudeText layout units) := by
  unfold magnitudeText
  split
  · refine ⟨.fraction, ?_, rfl⟩
    simp only [plainText, hlayout]
    rfl
  · next hnonzero =>
    have hshortest := units_shortest layout.tie hunits
    dsimp only
    generalize shortest layout.tie units = decimal at hshortest ⊢
    obtain ⟨number, exponent⟩ := decimal
    have hnumber : number ≠ 0 := by
      rintro rfl
      exact hnonzero (hshortest.symm.trans (Decimal.units_zero exponent))
    obtain ⟨hdigits, hne, hzero⟩ := withoutTrailingZeros_spec
      (fun c hc => Text.isDigit_of_mem_digits (n := number) hc) (Text.digits_ne_nil number)
      (Text.head?_digits_ne_zero hnumber)
    split
    · exact isUnsignedText_plainText hlayout hdigits hne hzero
    · exact isUnsignedText_exponentText hdigits hne hzero

end layouts

/-- The text of a number is read as a number to its end. -/
theorem Number.isNumberText (number : Number) : IsNumberText number.text := by
  cases number with
  | integer n => exact isNumberText_numeral n
  | float x =>
    have htext : IsUnsignedText (Binary64.magnitudeText layout x.units) :=
      isUnsignedText_magnitudeText rfl x.isMagnitude
    rw [text, Binary64.Finite.text]
    split
    · exact htext.minus
    · exact htext.isNumberText

/-! ## Numbers are read back -/

/-- A whole number that fits 64 bits, with or without a sign, or a floating point number. -/
def Number.IsInRange : Number → Prop
  | .integer n => -9223372036854775808 ≤ n ∧ n < 18446744073709551616
  | .float _ => True

/-- The text that is written for a number is read as the magnitude nearest to it. -/
def ReadsNearest (x : Binary64.Finite) : Prop :=
  let text := Binary64.magnitudeText layout x.units
  ∀ decimal, Binary64.decimal? text = some decimal → decimal.units < Binary64.limit →
    ∃ read : Binary64.Finite, float? x.negative text = some read ∧
      read.negative = x.negative ∧ read.units = decimal.units

/-- Where digits are read as the nearest magnitude, shortest digits are read as the number that they
are written for. -/
theorem ReadsNearest.float?_eq {x : Binary64.Finite} (hnearest : ReadsNearest x) :
    float? x.negative (Binary64.magnitudeText layout x.units) = some x := by
  obtain ⟨decimal, hdecimal, hunits⟩ :=
    Option.map_eq_some_iff.mp (Binary64.units_magnitudeText layout x.isMagnitude)
  obtain ⟨read, hread, hnegative, hsame⟩ :=
    hnearest decimal hdecimal (hunits ▸ x.isMagnitude.1)
  rw [hread]
  obtain ⟨negative, units, hmagnitude⟩ := x
  obtain ⟨_, _, _⟩ := read
  simp_all

namespace Number

section signed

variable (negative : Bool) {unsigned : List Char} (hhead : unsigned.head? ≠ some '-')

include hhead

/-- How digits behind a known sign are read, if they fit. -/
theorem ofText?_digits (hdigits : unsigned.all Char.isDigit) {n : Int}
    (hread : Text.numeral? ((if negative then ['-'] else []) ++ unsigned) = some n)
    (hn : (integer n).IsInRange) (hzero : negative → n ≠ 0) :
    Number.ofText? ((if negative then ['-'] else []) ++ unsigned) = some (.integer n) := by
  obtain ⟨hleast, hgreatest⟩ := hn
  cases negative with
  | true =>
    simp only [if_true, List.singleton_append] at hread
    simp [ofText?, hdigits, hread, Option.filter, hleast, hgreatest, hzero rfl]
  | false =>
    simp only [Bool.false_eq_true, if_false, List.nil_append] at hread
    simp [ofText?, hhead, hdigits, hread, Option.filter, hleast, hgreatest]

/-- How anything else behind a known sign is read. -/
theorem ofText?_other (hother : unsigned.all Char.isDigit = false) :
    Number.ofText? ((if negative then ['-'] else []) ++ unsigned) =
      (float? negative unsigned).map .float := by
  cases negative with
  | true => simp [ofText?, hother]
  | false => simp [ofText?, hhead, hother]

end signed

/-- The numbers that are read are in range. -/
theorem isInRange_of_ofText? {written : List Char} {number : Number}
    (hread : Number.ofText? written = some number) : number.IsInRange := by
  cases number with
  | float x => trivial
  | integer n =>
    unfold ofText? at hread
    dsimp only at hread
    generalize (if written.head? = some '-' then written.tail else written) = unsigned at hread
    split at hread
    · next whole hwhole =>
      cases hread
      split at hwhole
      · have hfits := (Option.filter_eq_some_iff.mp hwhole).2
        simp only [Bool.and_eq_true, decide_eq_true_eq] at hfits
        exact hfits.1
      · cases hwhole
    · cases hfloat : float? _ _ with
      | none => rw [hfloat] at hread; cases hread
      | some x => rw [hfloat] at hread; cases hread

theorem head?_ne_minus {text : List Char} (hfirst : ∀ c ∈ text.head?, c.isDigit) :
    text.head? ≠ some '-' := fun hminus => absurd (hfirst '-' hminus) (by decide)

/-- The texts of whole numbers are read back. -/
theorem ofText?_numeral {n : Int} (hn : (integer n).IsInRange) :
    Number.ofText? (Text.numeral n) = some (.integer n) := by
  have hdigit {k : Nat} {c : Char} (hc : c ∈ Text.digits k) : c.isDigit :=
    Text.isDigit_of_mem_digits hc
  have hhead (k : Nat) : (Text.digits k).head? ≠ some '-' :=
    head?_ne_minus fun c hc => hdigit (List.mem_of_mem_head? hc)
  have hall (k : Nat) : (Text.digits k).all Char.isDigit :=
    List.all_eq_true.mpr fun c hc => hdigit hc
  have hread := Text.numeral?_numeral n
  cases n with
  | ofNat k => exact ofText?_digits false (hhead k) (hall k) hread hn nofun
  | negSucc k => exact ofText?_digits true (hhead (k + 1)) (hall (k + 1)) hread hn nofun

/-- The texts of floating point numbers are read back where digits are read as the nearest
magnitude. -/
theorem ofText?_finite {x : Binary64.Finite} (hnearest : ReadsNearest x) :
    Number.ofText? (x.text layout) = some (.float x) := by
  obtain ⟨first, rest, htext, hfirst⟩ := Binary64.head?_magnitudeText layout x.isMagnitude
  have hpoint := Binary64.point_or_exponent_mem_magnitudeText layout rfl x.isMagnitude
  have hall : (Binary64.magnitudeText layout x.units).all Char.isDigit = false := by
    refine List.all_eq_false.mpr ?_
    rcases hpoint with hpoint | hpoint
    · exact ⟨_, hpoint, by decide⟩
    · exact ⟨_, hpoint, by decide⟩
  refine (ofText?_other x.negative (head?_ne_minus fun c hc => ?_) hall).trans ?_
  · rw [htext] at hc
    obtain rfl := Option.mem_some.mp hc
    exact hfirst
  · rw [hnearest.float?_eq, Option.map_some]

/-- The text of the number is read back. -/
def IsReadBack (number : Number) : Prop := Number.ofText? number.text = some number

theorem isReadBack {number : Number} (hrange : number.IsInRange)
    (hnearest : ∀ x, number = .float x → ReadsNearest x) : number.IsReadBack := by
  cases number with
  | integer n => exact ofText?_numeral hrange
  | float x => exact ofText?_finite (hnearest x rfl)

end Number

end Json

end QueryModel
