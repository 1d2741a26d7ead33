/-! # Decimal numerals

Whole numbers as decimal digits: how they are written and which texts are read back. Digits are the
ASCII digits only.
-/

namespace QueryModel.Text

/-- The decimal digits of a natural number, without leading zeros. -/
def digits (n : Nat) : List Char := Nat.toDigits 10 n

/-- The number that a run of digits denotes. -/
def ofDigits (text : List Char) : Nat := Nat.ofDigitChars 10 text 0

/-- A whole number in digits, after a minus sign if it is negative. -/
def numeral : Int → List Char
  | .ofNat n => digits n
  | .negSucc n => '-' :: digits (n + 1)

/-- The number of a nonempty run of digits. -/
def digits? (text : List Char) : Option Nat :=
  if text.isEmpty || !text.all Char.isDigit then none else some (ofDigits text)

/-- The number of a numeral, which may begin with either sign. -/
def numeral? : List Char → Option Int
  | '-' :: text => (digits? text).map fun n => -(n : Int)
  | '+' :: text => (digits? text).map fun n => (n : Int)
  | text => (digits? text).map fun n => (n : Int)

/-- The whole numbers of 64 bits with a sign. -/
def isWord (n : Int) : Bool := -9223372036854775808 ≤ n && n < 9223372036854775808

/-- The number of a numeral that fits 64 bits with a sign. -/
def word? (text : String) : Option Int := (numeral? text.toList).filter isWord

theorem ofDigits_digits (n : Nat) : ofDigits (digits n) = n := Nat.ofDigitChars_ten_toDigits

theorem digits?_digits (n : Nat) : digits? (digits n) = some n := by
  have hdigits : (digits n).all Char.isDigit = true := by
    rw [List.all_eq_true]
    intro c hc
    exact Nat.isDigit_of_mem_toDigits (by decide) (by decide) hc
  have hnonempty : (digits n).isEmpty = false :=
    List.isEmpty_eq_false_iff.mpr Nat.toDigits_ne_nil
  simp [digits?, hdigits, hnonempty, ofDigits_digits]

end QueryModel.Text
