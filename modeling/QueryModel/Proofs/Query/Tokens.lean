import QueryModel.Proofs.Binary64.ReadBack
import QueryModel.Proofs.Text.Delimited
import QueryModel.Query.Hql

/-! # Texts of names and literals

What stands in the text of a query without operands: names, words and numbers. Each shows where it
ends, and no two are written alike.
-/

namespace QueryModel

namespace Hql

/-- Whether a character can stand in a scalar outside quotes. -/
def isOpen (c : Char) : Bool := c != ' ' && c != ')' && c != ','

/-- What follows a scalar. -/
def Ends (rest : List Char) : Prop := ∀ c ∈ rest.head?, isOpen c = false

/-- What follows a name. -/
def EndsName (rest : List Char) : Prop :=
  ∀ c ∈ rest.head?, continuesName c = false ∧ c ≠ '\x60'

theorem Ends.endsName {rest : List Char} (hrest : Ends rest) : EndsName rest := by
  intro c hc
  have hclosed := hrest c hc
  simp only [isOpen, Bool.and_eq_false_iff, bne_eq_false_iff_eq] at hclosed
  obtain (rfl | rfl) | rfl := hclosed <;> decide

/-! ## Names -/

theorem continuesName_of_beginsName {c : Char} (hc : beginsName c) : continuesName c := by
  simp only [beginsName, Bool.or_eq_true] at hc
  simp only [continuesName, Char.isAlphanum, Bool.or_eq_true]
  exact hc.imp_left Or.inl

theorem continuesName_of_isPlainName {text : List Char} (htext : isPlainName text) :
    ∀ c ∈ text, continuesName c := by
  cases text with
  | nil => simp
  | cons first rest =>
    simp only [isPlainName, Bool.and_eq_true, List.all_eq_true] at htext
    rw [List.forall_mem_cons]
    exact ⟨continuesName_of_beginsName htext.1.1, htext.1.2⟩

/-- A name begins with the mark that it stands between, or is a plain name. -/
theorem identifier_cases (name : String) :
    (identifier name = name ∧ isPlainName name.toList) ∨
      identifier name = Text.quoted '\x60' name := by
  unfold identifier
  split
  · next hplain => exact Or.inl ⟨rfl, hplain⟩
  · exact Or.inr rfl

theorem plain_ne_quoted {name other : String} {rest others : List Char}
    (hname : isPlainName name.toList) :
    name.toList ++ rest ≠ (Text.quoted '\x60' other).toList ++ others := by
  intro hsame
  rw [Text.toList_quoted] at hsame
  cases htext : name.toList with
  | nil => simp [htext, isPlainName] at hname
  | cons first tail =>
    rw [htext] at hname hsame
    have hfirst : first = '\x60' := List.head_eq_of_cons_eq hsame
    subst hfirst
    have hbegins : beginsName '\x60' := by
      simp only [isPlainName, Bool.and_eq_true] at hname
      exact hname.1.1
    exact absurd hbegins (by decide)

theorem identifier_append_inj {name other : String} {rest others : List Char}
    (hrest : EndsName rest) (hothers : EndsName others)
    (hsame : (identifier name).toList ++ rest = (identifier other).toList ++ others) :
    name = other ∧ rest = others := by
  obtain ⟨hname, hplain⟩ | hname := identifier_cases name
  · obtain ⟨hother, hplain'⟩ | hother := identifier_cases other
    · rw [hname, hother] at hsame
      obtain ⟨htext, hrests⟩ := Text.run_append_inj (continuesName_of_isPlainName hplain)
        (continuesName_of_isPlainName hplain') (fun c hc => (hrest c hc).1)
        (fun c hc => (hothers c hc).1) hsame
      exact ⟨String.ext htext, hrests⟩
    · rw [hname, hother] at hsame
      exact (plain_ne_quoted hplain hsame).elim
  · obtain ⟨hother, hplain'⟩ | hother := identifier_cases other
    · rw [hname, hother] at hsame
      exact (plain_ne_quoted hplain' hsame.symm).elim
    · rw [hname, hother] at hsame
      exact Text.quoted_append_inj (fun hhead => (hrest _ hhead).2 rfl)
        (fun hhead => (hothers _ hhead).2 rfl) hsame

theorem head_identifier (name : String) :
    ∃ first rest, (identifier name).toList = first :: rest ∧
      (beginsName first ∨ first = '\x60') := by
  obtain ⟨hname, hplain⟩ | hname := identifier_cases name
  · rw [hname]
    cases htext : name.toList with
    | nil => simp [htext, isPlainName] at hplain
    | cons first rest =>
      simp only [htext, isPlainName, Bool.and_eq_true] at hplain
      exact ⟨first, rest, rfl, Or.inl hplain.1.1⟩
  · rw [hname, Text.toList_quoted]
    exact ⟨_, _, rfl, Or.inr rfl⟩

/-- A word with nothing after it, or a blank, is not the beginning of a path. -/
theorem word_ne_path {word rest others : List Char} {name : String}
    (hword : ∀ c ∈ word, continuesName c) (hrest : Ends rest) :
    word ++ rest ≠ (identifier name).toList ++ '.' :: others := by
  intro hsame
  obtain ⟨hname, hplain⟩ | hname := identifier_cases name
  · rw [hname] at hsame
    have hpoint : ∀ c ∈ ('.' :: others).head?, continuesName c = false := by
      rintro _ ⟨⟩
      decide
    obtain ⟨-, rfl⟩ := Text.run_append_inj hword (continuesName_of_isPlainName hplain)
      (fun c hc => (hrest.endsName c hc).1) hpoint hsame
    exact absurd (hrest '.' rfl) (by decide)
  · rw [hname, Text.toList_quoted] at hsame
    cases word with
    | nil =>
      rw [List.nil_append] at hsame
      subst hsame
      exact absurd (hrest _ rfl) (by decide)
    | cons first tail =>
      have hfirst : first = '\x60' := List.head_eq_of_cons_eq hsame
      subst hfirst
      exact absurd (hword _ (List.mem_cons_self ..)) (by decide)

/-! ## Literals -/

/-- The literals that are words, with their texts. -/
def words : List (Value × List Char) :=
  [(.null, ['n', 'u', 'l', 'l']), (.boolean true, ['t', 'r', 'u', 'e']),
    (.boolean false, ['f', 'a', 'l', 's', 'e']), (.float (.infinity false), ['i', 'n', 'f']),
    (.float (.infinity true), ['-', 'i', 'n', 'f']), (.float .nan, ['N', 'a', 'N'])]

/-- The literals that are written with digits. -/
inductive IsNumber : Value → Prop
  | integer (n : Int) : IsNumber (.integer n)
  | finite (x : Binary64.Finite) : IsNumber (.float (.finite x))

/-- A literal is a string, a word, or a number. -/
theorem literal_cases (value : Value) :
    (∃ text, value = .string text) ∨ (value, (literal value).toList) ∈ words ∨ IsNumber value := by
  cases value with
  | null => exact Or.inr (Or.inl (by decide))
  | boolean value => cases value <;> exact Or.inr (Or.inl (by decide))
  | integer n => exact Or.inr (Or.inr (.integer n))
  | string text => exact Or.inl ⟨text, rfl⟩
  | float x =>
    cases x with
    | finite x => exact Or.inr (Or.inr (.finite x))
    | infinity negative => cases negative <;> exact Or.inr (Or.inl (by decide))
    | nan => exact Or.inr (Or.inl (by decide))

theorem toList_literal_integer (n : Int) : (literal (.integer n)).toList = Text.numeral n :=
  String.toList_ofList

theorem toList_literal_finite (x : Binary64.Finite) :
    (literal (.float (.finite x))).toList = x.text layout :=
  String.toList_ofList

theorem isNumeric_of_isNumber {value : Value} (hvalue : IsNumber value) :
    ∀ c ∈ (literal value).toList, Binary64.isNumeric c := by
  cases hvalue with
  | integer n =>
    rw [toList_literal_integer]
    exact fun c hc => Binary64.isNumeric_of_mem_numeral hc
  | finite x =>
    rw [toList_literal_finite, Binary64.Finite.text, List.forall_mem_append]
    refine ⟨?_, Binary64.isNumeric_of_mem_magnitudeText layout x.isMagnitude⟩
    split <;> exact List.all_eq_true.mp rfl

/-- A whole number is not written as a floating point number is. -/
theorem literal_integer_ne_finite (n : Int) (x : Binary64.Finite) :
    literal (.integer n) ≠ literal (.float (.finite x)) := by
  intro hsame
  have htext := congrArg String.toList hsame
  rw [toList_literal_integer, toList_literal_finite] at htext
  have hnumeral : ∀ c ∈ Text.numeral n, c.isDigit ∨ c = '-' := by
    cases n with
    | ofNat n => exact fun c hc => Or.inl (Text.isDigit_of_mem_digits hc)
    | negSucc n =>
      rw [Text.numeral, List.forall_mem_cons]
      exact ⟨Or.inr rfl, fun c hc => Or.inl (Text.isDigit_of_mem_digits hc)⟩
  rw [htext] at hnumeral
  have hpoint := Binary64.point_or_exponent_mem_magnitudeText layout rfl x.isMagnitude
  rcases hpoint with hpoint | hexponent
  · exact absurd (hnumeral '.' (List.mem_append_right _ hpoint)) (by decide)
  · exact absurd (hnumeral 'e' (List.mem_append_right _ hexponent)) (by decide)

theorem eq_of_isNumber {left right : Value} (hleft : IsNumber left) (hright : IsNumber right)
    (hsame : literal left = literal right) : left = right := by
  have htext := congrArg String.toList hsame
  cases hleft with
  | integer n =>
    cases hright with
    | integer m =>
      rw [toList_literal_integer, toList_literal_integer] at htext
      rw [Text.numeral_injective htext]
    | finite x => exact (literal_integer_ne_finite n x hsame).elim
  | finite x =>
    cases hright with
    | integer n => exact (literal_integer_ne_finite n x hsame.symm).elim
    | finite y =>
      rw [toList_literal_finite, toList_literal_finite] at htext
      rw [Binary64.Finite.text_injective layout htext]

theorem eq_of_mem_words {left right : Value × List Char} (hleft : left ∈ words)
    (hright : right ∈ words) (hsame : left.2 = right.2) : left.1 = right.1 := by
  have hwords : ∀ left ∈ words, ∀ right ∈ words, left.2 = right.2 → left.1 = right.1 := by decide
  exact hwords left hleft right hright hsame

/-- A number is not a word. -/
theorem literal_ne_word {value : Value} {word : Value × List Char} (hvalue : IsNumber value)
    (hword : word ∈ words) : (literal value).toList ≠ word.2 := by
  intro hsame
  have hwords : ∀ word ∈ words, ¬ word.2.all Binary64.isNumeric := by decide
  exact hwords word hword (List.all_eq_true.mpr (hsame ▸ isNumeric_of_isNumber hvalue))

/-- Literals that are no strings are equal if their texts are. -/
theorem eq_of_literal_eq {left right : Value} (hleft : ∀ text, left ≠ .string text)
    (hright : ∀ text, right ≠ .string text) (hsame : literal left = literal right) :
    left = right := by
  have htext := congrArg String.toList hsame
  obtain ⟨text, hstring⟩ | hword | hnumber := literal_cases left
  · exact (hleft text hstring).elim
  · obtain ⟨text, hstring⟩ | hword' | hnumber := literal_cases right
    · exact (hright text hstring).elim
    · exact eq_of_mem_words hword hword' htext
    · exact (literal_ne_word hnumber hword htext.symm).elim
  · obtain ⟨text, hstring⟩ | hword | hnumber' := literal_cases right
    · exact (hright text hstring).elim
    · exact (literal_ne_word hnumber hword htext).elim
    · exact eq_of_isNumber hnumber hnumber' hsame

/-- A literal that is no string goes on to its end. -/
theorem isOpen_of_mem_literal {value : Value} (hvalue : ∀ text, value ≠ .string text) :
    ∀ c ∈ (literal value).toList, isOpen c := by
  obtain ⟨text, hstring⟩ | hword | hnumber := literal_cases value
  · exact (hvalue text hstring).elim
  · have hwords : ∀ word ∈ words, word.2.all isOpen := by decide
    exact List.all_eq_true.mp (hwords _ hword)
  · intro c hc
    have hnumeric := isNumeric_of_isNumber hnumber c hc
    by_contra hclosed
    simp only [isOpen, Bool.and_eq_true, bne_iff_ne, ne_eq, not_and_or, not_not] at hclosed
    obtain (rfl | rfl) | rfl := hclosed <;> exact absurd hnumeric (by decide)

/-- A number begins with a digit or with a minus sign. -/
theorem head_literal {value : Value} (hvalue : IsNumber value) :
    ∃ first rest, (literal value).toList = first :: rest ∧ (first.isDigit ∨ first = '-') := by
  cases hvalue with
  | integer n =>
    rw [toList_literal_integer]
    cases n with
    | ofNat n =>
      obtain ⟨first, rest, htext⟩ := List.exists_cons_of_ne_nil (Text.digits_ne_nil n)
      exact ⟨first, rest, htext,
        Or.inl (Text.isDigit_of_mem_digits (n := n) (htext ▸ List.mem_cons_self ..))⟩
    | negSucc n => exact ⟨'-', _, rfl, Or.inr rfl⟩
  | finite x =>
    rw [toList_literal_finite, Binary64.Finite.text]
    obtain ⟨first, rest, htext, hfirst⟩ := Binary64.head?_magnitudeText layout x.isMagnitude
    cases x.negative with
    | true => exact ⟨'-', _, rfl, Or.inr rfl⟩
    | false => exact ⟨first, rest, htext, Or.inl hfirst⟩

/-- No name begins with a digit or with a minus sign. -/
theorem number_ne_identifier {first : Char} {tail others : List Char} {name : String}
    (hfirst : first.isDigit ∨ first = '-') :
    first :: tail ≠ (identifier name).toList ++ others := by
  obtain ⟨begins, text, htext, hbegins⟩ := head_identifier name
  rw [htext]
  intro hsame
  obtain rfl : first = begins := List.head_eq_of_cons_eq hsame
  rcases hfirst with hdigit | rfl
  · rcases hbegins with hbegins | rfl
    · delta beginsName Char.isAlpha Char.isUpper Char.isLower at hbegins
      simp only [Bool.or_eq_true, Bool.and_eq_true, decide_eq_true_eq, beq_iff_eq] at hbegins
      simp only [Char.isDigit, Bool.and_eq_true, decide_eq_true_eq] at hdigit
      obtain (hupper | hlower) | rfl := hbegins
      · exact absurd (UInt32.le_trans hupper.1 hdigit.2) (by decide)
      · exact absurd (UInt32.le_trans hlower.1 hdigit.2) (by decide)
      · exact absurd hdigit (by decide)
    · exact absurd hdigit (by decide)
  · exact absurd hbegins (by decide)

/-- A literal with nothing after it, or a blank, is not the beginning of a path. -/
theorem literal_ne_path {value : Value} {rest others : List Char} {name : String}
    (hvalue : ∀ text, value ≠ .string text) (hrest : Ends rest) :
    (literal value).toList ++ rest ≠ (identifier name).toList ++ '.' :: others := by
  obtain ⟨text, hstring⟩ | hword | hnumber := literal_cases value
  · exact (hvalue text hstring).elim
  · have hwords : ∀ word ∈ words,
        word.2.all continuesName ∨ word.2 = '-' :: word.2.tail := by
      decide
    obtain hplain | htext := hwords _ hword
    · exact word_ne_path (List.all_eq_true.mp hplain) hrest
    · dsimp only at htext
      rw [htext]
      exact number_ne_identifier (Or.inr rfl)
  · obtain ⟨first, tail, htext, hfirst⟩ := head_literal hnumber
    rw [htext]
    exact number_ne_identifier hfirst

end Hql

end QueryModel
