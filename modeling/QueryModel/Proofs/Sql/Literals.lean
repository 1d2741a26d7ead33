import QueryModel.Catalog.Operator
import QueryModel.Proofs.Binary64.ReadBack
import QueryModel.Proofs.Sql.Spelling

/-! # Values in statements

A value is a placeholder or a word, and can be told from its text, except that a floating point
number may be written as a whole number is.
-/

namespace QueryModel.Sql

/-- Whether a character stands in words. -/
def isPlain (c : Char) : Bool := c.isAlphanum || c == '-' || c == '.' || c == '+'

theorem isPlain_of_isNumeric {c : Char} (hc : Binary64.isNumeric c) : isPlain c := by
  simp only [Binary64.isNumeric, Bool.or_eq_true, beq_iff_eq] at hc
  obtain (((hdigit | rfl) | rfl) | rfl) | rfl := hc
  · simp [isPlain, Char.isAlphanum, hdigit]
  all_goals decide

theorem continuesValue_of_isPlain {c : Char} (hc : isPlain c) : continuesValue c := by
  by_contra hclosed
  simp only [continuesValue, Bool.and_eq_true, bne_iff_ne, ne_eq, not_and_or, not_not] at hclosed
  obtain (rfl | rfl) | rfl := hclosed <;> exact absurd hc (by decide)

/-- Words that stand for a value. -/
def isWord (text : List Char) : Bool :=
  !text.isEmpty && text.all isPlain && text != "NOT".toList

theorem forall_isPlain_of_isWord {word : List Char} (hword : isWord word) :
    ∀ c ∈ word, isPlain c := by
  simp only [isWord, Bool.and_eq_true, List.all_eq_true] at hword
  exact hword.1.2

theorem continuesValue_of_isWord {word : List Char} (hword : isWord word) :
    ∀ c ∈ word, continuesValue c :=
  fun c hc => continuesValue_of_isPlain (forall_isPlain_of_isWord hword c hc)

theorem exists_eq_cons_of_isWord {word : List Char} (hword : isWord word) :
    ∃ first rest, word = first :: rest ∧ isPlain first := by
  cases word with
  | nil => cases hword
  | cons first rest =>
    exact ⟨first, rest, rfl, forall_isPlain_of_isWord hword first (List.mem_cons_self ..)⟩

namespace Value

/-- The values that are written as constants, with their texts. -/
def constants : List (Value × List Char) :=
  [(.boolean true, "true".toList), (.boolean false, "false".toList), (.null, "NULL".toList),
    (.float (.infinity false), "inf".toList), (.float (.infinity true), "-inf".toList),
    (.float .nan, "NaN".toList)]

/-- `value.IsNumber text`: the value is a number that is written as the text. -/
inductive IsNumber : Value → List Char → Prop
  | integer (n : Int) : IsNumber (.integer n) (Text.numeral n)
  | finite (x : Binary64.Finite) : IsNumber (.float (.finite x)) (x.text .plain)

/-- The value that a placeholder for a parameter stands for. -/
def ofParam : Param → Value
  | .string text => .string text
  | .variable name => .variable name
  | .positional position => .positional position

@[simp]
theorem piece_ofParam (given : Param) : (ofParam given).piece = .param given := by
  cases given <;> rfl

/-- `value.IsWritten text`: the value is written as the text, without a placeholder. -/
def IsWritten (value : Value) (text : List Char) : Prop :=
  (value, text) ∈ constants ∨ value.IsNumber text

/-- A value is a placeholder, or is written without one. -/
theorem ofParam_or_isWritten (value : Value) :
    (∃ given, value = ofParam given) ∨ ∃ text, value.IsWritten text := by
  match value with
  | .string text => exact Or.inl ⟨.string text, rfl⟩
  | .variable name => exact Or.inl ⟨.variable name, rfl⟩
  | .positional position => exact Or.inl ⟨.positional position, rfl⟩
  | .integer n => exact Or.inr ⟨_, Or.inr (.integer n)⟩
  | .float (.finite x) => exact Or.inr ⟨_, Or.inr (.finite x)⟩
  | .float (.infinity true) => exact Or.inr ⟨"-inf".toList, Or.inl (by decide)⟩
  | .float (.infinity false) => exact Or.inr ⟨"inf".toList, Or.inl (by decide)⟩
  | .float .nan => exact Or.inr ⟨"NaN".toList, Or.inl (by decide)⟩
  | .boolean true => exact Or.inr ⟨"true".toList, Or.inl (by decide)⟩
  | .boolean false => exact Or.inr ⟨"false".toList, Or.inl (by decide)⟩
  | .null => exact Or.inr ⟨"NULL".toList, Or.inl (by decide)⟩

theorem IsWritten.piece_eq {value : Value} {text : List Char} (hvalue : value.IsWritten text) :
    value.piece = .verbatim (String.ofList text) := by
  obtain hconstant | hnumber := hvalue
  · have hconstants : ∀ constant ∈ constants,
        constant.1.piece = .verbatim (String.ofList constant.2) := by
      decide
    exact hconstants _ hconstant
  · cases hnumber <;> rfl

theorem IsNumber.isNumeric {value : Value} {text : List Char} (hvalue : value.IsNumber text) :
    ∀ c ∈ text, Binary64.isNumeric c := by
  cases hvalue with
  | integer n => exact fun c hc => Binary64.isNumeric_of_mem_numeral hc
  | finite x =>
    rw [Binary64.Finite.text, List.forall_mem_append]
    refine ⟨?_, Binary64.isNumeric_of_mem_magnitudeText .plain x.isMagnitude⟩
    split <;> exact List.all_eq_true.mp rfl

theorem IsNumber.ne_nil {value : Value} {text : List Char} (hvalue : value.IsNumber text) :
    text ≠ [] := by
  cases hvalue with
  | integer n =>
    cases n with
    | ofNat n => exact Text.digits_ne_nil n
    | negSucc n => exact List.cons_ne_nil _ _
  | finite x =>
    obtain ⟨first, rest, htext, -⟩ := Binary64.head?_magnitudeText .plain x.isMagnitude
    simp [Binary64.Finite.text, htext]

theorem IsWritten.isWord {value : Value} {text : List Char} (hvalue : value.IsWritten text) :
    Sql.isWord text := by
  obtain hconstant | hnumber := hvalue
  · have hconstants : ∀ constant ∈ constants, Sql.isWord constant.2 := by decide
    exact hconstants _ hconstant
  · have hplain : text.all isPlain :=
      List.all_eq_true.mpr fun c hc => isPlain_of_isNumeric (hnumber.isNumeric c hc)
    have hnot : (text != "NOT".toList) = true := by
      refine bne_iff_ne.mpr ?_
      rintro rfl
      exact absurd (hnumber.isNumeric 'N' (by decide)) (by decide)
    have hempty : text.isEmpty = false := List.isEmpty_eq_false_iff.mpr hnumber.ne_nil
    rw [Sql.isWord, hempty, hplain, hnot]
    rfl

/-- Values that are the same, or numbers that are written alike, one of them a whole number and the
other a floating point number. -/
inductive SameUpToNumbers : Value → Value → Prop
  | refl (value : Value) : SameUpToNumbers value value
  | integerFloat {n : Int} {x : Binary64} (hsame : Text.numeral n = x.text .plain) :
      SameUpToNumbers (.integer n) (.float x)
  | floatInteger {n : Int} {x : Binary64} (hsame : Text.numeral n = x.text .plain) :
      SameUpToNumbers (.float x) (.integer n)

theorem SameUpToNumbers.piece_eq {left right : Value} (hsame : left.SameUpToNumbers right) :
    left.piece = right.piece := by
  cases hsame with
  | refl => rfl
  | integerFloat hsame => rw [piece, piece, hsame]
  | floatInteger hsame => rw [piece, piece, hsame]

theorem IsNumber.sameUpToNumbers {left right : Value} {text : List Char}
    (hleft : left.IsNumber text) (hright : right.IsNumber text) : left.SameUpToNumbers right := by
  generalize hother : text = other at hright
  cases hleft with
  | integer n =>
    cases hright with
    | integer m =>
      rw [Text.numeral_injective hother]
      exact .refl _
    | finite x => exact .integerFloat hother
  | finite x =>
    cases hright with
    | integer n => exact .floatInteger hother.symm
    | finite y =>
      rw [Binary64.Finite.text_injective .plain hother]
      exact .refl _

/-- A number is not written as a constant is. -/
theorem IsNumber.not_mem_constants {value other : Value} {text : List Char}
    (hvalue : value.IsNumber text) : (other, text) ∉ constants := by
  intro hconstant
  have hconstants : ∀ constant ∈ constants, ¬constant.2.all Binary64.isNumeric := by decide
  exact hconstants _ hconstant (List.all_eq_true.mpr hvalue.isNumeric)

/-- Values that are written as one text are the same, up to numbers. -/
theorem IsWritten.sameUpToNumbers {left right : Value} {text : List Char}
    (hleft : left.IsWritten text) (hright : right.IsWritten text) :
    left.SameUpToNumbers right := by
  obtain hleft | hleft := hleft
  · obtain hright | hright := hright
    · have hconstants : ∀ left ∈ constants, ∀ right ∈ constants, left.2 = right.2 →
          left.1 = right.1 := by
        decide
      obtain rfl : left = right := hconstants _ hleft _ hright rfl
      exact .refl left
    · exact (hright.not_mem_constants hleft).elim
  · obtain hright | hright := hright
    · exact (hleft.not_mem_constants hright).elim
    · exact hleft.sameUpToNumbers hright

/-- The character that a value begins with. -/
def opening (value : Value) : Char :=
  match value.piece with
  | .verbatim text => text.toList.headD ' '
  | .identifier _ => '"'
  | .param _ => '$'

theorem opening_ofParam (given : Param) : (ofParam given).opening = '$' := by
  rw [opening, piece_ofParam]

theorem IsWritten.opening_eq {value : Value} {first : Char} {tail : List Char}
    (hvalue : value.IsWritten (first :: tail)) : value.opening = first := by
  simp [opening, hvalue.piece_eq]

theorem head?_spelled_piece (index : Nat) (value : Value) (rest : List Piece) :
    (spelled index (value.piece :: rest)).head? = some value.opening := by
  obtain ⟨given, rfl⟩ | ⟨text, hvalue⟩ := value.ofParam_or_isWritten
  · rw [opening_ofParam, piece_ofParam, spelled, placeholder, String.toList_append]
    rfl
  · obtain ⟨first, tail, rfl, -⟩ := exists_eq_cons_of_isWord hvalue.isWord
    rw [hvalue.opening_eq, hvalue.piece_eq, spelled_verbatim, String.toList_ofList]
    rfl

theorem IsWritten.isPlain_opening {value : Value} {text : List Char}
    (hvalue : value.IsWritten text) : isPlain value.opening := by
  obtain ⟨first, tail, rfl, hfirst⟩ := exists_eq_cons_of_isWord hvalue.isWord
  rwa [hvalue.opening_eq]

theorem opening_ne (value : Value) {c : Char} (hplain : isPlain c = false) (hc : c ≠ '$') :
    value.opening ≠ c := by
  obtain ⟨given, rfl⟩ | ⟨text, hvalue⟩ := value.ofParam_or_isWritten
  · rw [opening_ofParam]
    exact hc.symm
  · rintro rfl
    rw [hvalue.isPlain_opening] at hplain
    cases hplain

end Value

namespace SpelledAlike

variable {index : Nat} {rest rests : List Piece}

/-- A word shows where it ends. -/
theorem word {word other : List Char} (hword : isWord word) (hother : isWord other)
    (hrest : EndsValue rest) (hrests : EndsValue rests)
    (hsame : SpelledAlike index (.verbatim (String.ofList word) :: rest)
      (.verbatim (String.ofList other) :: rests)) :
    word = other ∧ SpelledAlike index rest rests := by
  have hspelled := hsame.spelled_eq
  rw [spelled_verbatim, spelled_verbatim, String.toList_ofList, String.toList_ofList] at hspelled
  obtain ⟨hwords, htail⟩ := Text.run_append_inj (continuesValue_of_isWord hword)
    (continuesValue_of_isWord hother) (hrest index) (hrests index) hspelled
  exact ⟨hwords, htail, hsame.referred_eq⟩

/-- No value is the beginning of a negation, although some begin with the same letter. -/
theorem value_ne_not {given : Value} (hrest : EndsValue rest) :
    ¬SpelledAlike index (given.piece :: rest) (.verbatim "NOT " :: rests) := by
  intro hsame
  have hspelled := hsame.spelled_eq
  obtain ⟨param, rfl⟩ | ⟨text, hgiven⟩ := given.ofParam_or_isWritten
  · have hhead := congrArg List.head? hspelled
    rw [Value.head?_spelled_piece, Value.opening_ofParam] at hhead
    exact absurd (Option.some.inj hhead) (by decide)
  · rw [hgiven.piece_eq, spelled_verbatim, spelled_verbatim, String.toList_ofList] at hspelled
    have hnot : ∀ c ∈ "NOT".toList, continuesValue c := List.all_eq_true.mp rfl
    have hblank : ∀ c ∈ (' ' :: spelled index rests).head?, continuesValue c = false := by
      rintro _ ⟨⟩
      decide
    obtain ⟨rfl, -⟩ := Text.run_append_inj (continuesValue_of_isWord hgiven.isWord) hnot
      (hrest index) hblank hspelled
    exact absurd hgiven.isWord (by decide)

/-- A value shows where it ends. -/
theorem value {left right : Value} (hrest : EndsValue rest) (hrests : EndsValue rests)
    (hsame : SpelledAlike index (left.piece :: rest) (right.piece :: rests)) :
    left.SameUpToNumbers right ∧ ∃ later, SpelledAlike later rest rests := by
  have hopening : left.opening = right.opening := by
    have hhead := congrArg List.head? hsame.spelled_eq
    rw [Value.head?_spelled_piece, Value.head?_spelled_piece] at hhead
    exact Option.some.inj hhead
  have hmark : isPlain '$' = false := by decide
  obtain ⟨given, rfl⟩ | ⟨text, hleft⟩ := left.ofParam_or_isWritten
  · obtain ⟨other, rfl⟩ | ⟨other, hright⟩ := right.ofParam_or_isWritten
    · rw [Value.piece_ofParam, Value.piece_ofParam] at hsame
      obtain ⟨rfl, htail⟩ := hsame.param
      exact ⟨.refl _, _, htail⟩
    · rw [Value.opening_ofParam] at hopening
      rw [hopening, hright.isPlain_opening] at hmark
      cases hmark
  · obtain ⟨other, rfl⟩ | ⟨other, hright⟩ := right.ofParam_or_isWritten
    · rw [Value.opening_ofParam] at hopening
      rw [← hopening, hleft.isPlain_opening] at hmark
      cases hmark
    · rw [hleft.piece_eq, hright.piece_eq] at hsame
      obtain ⟨rfl, htail⟩ := hsame.word hleft.isWord hright.isWord hrest hrests
      exact ⟨hleft.sameUpToNumbers hright, _, htail⟩

end SpelledAlike

end QueryModel.Sql
