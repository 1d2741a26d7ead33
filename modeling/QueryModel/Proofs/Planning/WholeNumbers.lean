import QueryModel.Planning.Restriction
import QueryModel.Proofs.Binary64.Whole
import QueryModel.Proofs.Planning.Rejection
import QueryModel.Proofs.Sql.Spelling

/-! # Whole numbers in statements

A whole number, or a string that is the numeral of one, stands in a statement as a numeral. Where a
whole number is expected, it is the numeral of the given one. A numeric column takes floating point
numbers instead: the number becomes the nearest one, and that is written with its shortest digits.
Main statement: the numeral is always that of a whole number with the same nearest floating point
number, and up to 2⁵³ it is the given one in a numeric column too.
-/

namespace QueryModel

/-- `given.Spells n`: the value is the whole number, as a number or as the numeral in a string. -/
def Json.Spells (given : Json) (n : Int) : Prop :=
  given = .number (.integer n) ∨
    ∃ text, given = .string text ∧ Text.numeral? text.toList = some n

/-- `value.Denotes n`: the text of the value is a numeral of the whole number. -/
def Sql.Value.Denotes (value : Sql.Value) (n : Int) : Prop :=
  Text.numeral? (Sql.Buffer.ofPieces [value.piece]).text.toList = some n

theorem ScalarType.wholeBits?_of_isFloating (type : ScalarType) (htype : type.isFloating) :
    type.wholeBits? = none := by
  cases type <;> first | rfl | cases htype

namespace Sql.Value

variable {value : Sql.Value} {n : Int}

theorem denotes_iff {characters : List Char}
    (hpiece : value.piece = .verbatim (String.ofList characters)) :
    value.Denotes n ↔ Text.numeral? characters = some n := by
  rw [Denotes, hpiece, Buffer.ofPieces, Buffer.toList_text_appendAll]
  simp [Buffer.empty, spelled]

theorem denotes_integer (n : Int) : (Value.integer n).Denotes n :=
  (denotes_iff rfl).mpr (Text.numeral?_numeral n)

end Sql.Value

namespace Json

/-! ## Literals -/

section literals

variable {given : Json} {type : ScalarType} {n : Int} {value : Value}

theorem numberLiteral?_of_wholeBits? (htype : type.wholeBits?.isSome)
    (hvalue : numberLiteral? (.integer n) type = some value) : value = .integer n := by
  obtain ⟨bits, hbits⟩ := Option.isSome_iff_exists.mp htype
  rw [numberLiteral?, hbits] at hvalue
  obtain ⟨word, hfits, rfl⟩ := Option.map_eq_some_iff.mp hvalue
  have hword := (Option.filter_eq_some_iff.mp hfits).1
  rw [Number.word?] at hword
  split at hword
  · rw [Option.some.inj hword]
  · cases hword

/-- Where a whole number is expected, the literal is the given number. -/
theorem literal_of_wholeBits? (hgiven : given.Spells n) (htype : type.wholeBits?.isSome)
    (hvalue : given.literal type = .ok value) : value = .integer n := by
  have hnumber (hnumber : (number (.integer n)).literal type = .ok value) : value = .integer n := by
    dsimp only [literal] at hnumber
    split at hnumber
    · next found hfound =>
      cases hnumber
      exact numberLiteral?_of_wholeBits? htype hfound
    · cases hnumber
  rcases hgiven with rfl | ⟨text, rfl, hn⟩
  · exact hnumber hvalue
  · cases hword : Text.word? text with
    | none => simp [literal, htype, hword] at hvalue
    | some word =>
      have hsame := (Option.filter_eq_some_iff.mp hword).1
      obtain rfl := Option.some.inj (hn.symm.trans hsame)
      rw [literal_string_of_word? htype hword] at hvalue
      exact hnumber hvalue

theorem numberLiteral?_of_isFloating (htype : type.isFloating)
    (hvalue : numberLiteral? (.integer n) type = some value) :
    value = .float (.ofInt n) ∧ (Binary64.ofInt n).isFinite := by
  simp only [numberLiteral?, type.wholeBits?_of_isFloating htype, if_pos htype] at hvalue
  obtain ⟨nearest, hnearest, rfl⟩ := Option.map_eq_some_iff.mp hvalue
  rw [Number.binary64?] at hnearest
  generalize Binary64.ofInt n = x at hnearest ⊢
  split at hnearest
  · next hfinite =>
    rw [Option.some.inj hnearest] at hfinite ⊢
    exact ⟨rfl, hfinite⟩
  · cases hnearest

/-- Where a floating point number is expected, the literal is the nearest one. -/
theorem exists_literal_of_isFloating (hgiven : given.Spells n) (htype : type.isFloating)
    (hvalue : given.literal type = .ok value) :
    ∃ x : Binary64.Finite, value = .float (.finite x) ∧ x.IsNearest n := by
  have hnearest {x : Binary64} (hfinite : x.isFinite) : ∃ y, x = .finite y := by
    cases x with
    | finite y => exact ⟨y, rfl⟩
    | infinity negative => cases hfinite
    | nan => cases hfinite
  rcases hgiven with rfl | ⟨text, rfl, hn⟩
  · dsimp only [literal] at hvalue
    split at hvalue
    · next found hfound =>
      cases hvalue
      obtain ⟨rfl, hfinite⟩ := numberLiteral?_of_isFloating htype hfound
      obtain ⟨x, hx⟩ := hnearest hfinite
      exact ⟨x, congrArg _ hx, Binary64.isNearest_of_ofInt hx⟩
    · cases hvalue
  · have hwhole : ¬type.wholeBits?.isSome := by
      rw [type.wholeBits?_of_isFloating htype]
      exact Bool.false_ne_true
    dsimp only [literal] at hvalue
    rw [if_neg hwhole, if_pos htype] at hvalue
    split at hvalue
    · next x hx =>
      cases hvalue
      obtain ⟨hread, hfinite⟩ := Option.filter_eq_some_iff.mp hx
      obtain ⟨x, rfl⟩ := hnearest hfinite
      exact ⟨x, rfl, Binary64.isNearest_of_ofText? hn hread⟩
    · cases hvalue

theorem literal_of_numberLiteral? {given : Number}
    (hvalue : numberLiteral? given type = some value) : (number given).literal type = .ok value := by
  dsimp only [literal]
  rw [hvalue]

/-- A whole number in range becomes a floating point number in a numeric column. -/
theorem literal_numeric (hfinite : (Binary64.ofInt n).isFinite) :
    (number (.integer n)).literal .numeric = .ok (.float (.ofInt n)) := by
  have hfloating : numberLiteral? (.integer n) .numeric = (Number.integer n).binary64?.map .float :=
    rfl
  refine literal_of_numberLiteral? ?_
  rw [hfloating, Number.binary64?, if_pos hfinite, Option.map_some]

end literals

/-- A whole number stands in a statement as the numeral of a whole number with the same nearest
floating point number: of the given one where a whole number is expected, and up to 2⁵³. -/
theorem exists_denotes {given : Json} {type : ScalarType} {n : Int} {value : Value}
    (hgiven : given.Spells n) (htype : type.wholeBits?.isSome ∨ type.isFloating)
    (hvalue : given.literal type = .ok value) :
    ∃ m, (TableContext.literal value).Denotes m ∧ Binary64.ofInt m = Binary64.ofInt n ∧
      (type.wholeBits?.isSome ∨ n.natAbs ≤ Nat.pow 2 53 → m = n) := by
  by_cases hwhole : type.wholeBits?.isSome
  · obtain rfl := literal_of_wholeBits? hgiven hwhole hvalue
    exact ⟨n, Sql.Value.denotes_integer n, rfl, fun _ => rfl⟩
  · obtain ⟨x, rfl, hx⟩ :=
      exists_literal_of_isFloating hgiven (htype.resolve_left hwhole) hvalue
    obtain ⟨m, htext, hm, hexact⟩ := hx.exists_numeral?_text
    refine ⟨m, (Sql.Value.denotes_iff rfl).mpr htext, hm.ofInt_eq hx, fun hn => ?_⟩
    exact hexact (hn.resolve_left hwhole)

/-- Two to the power of 53 is written in full as a floating point number. -/
theorem denotes_twoPow53 :
    ∃ value, (number (.integer 9007199254740992)).literal .numeric = .ok value ∧
      (TableContext.literal value).Denotes 9007199254740992 := by
  have hvalue := literal_numeric (n := 9007199254740992) (by decide +kernel)
  obtain ⟨m, hdenotes, -, hexact⟩ := exists_denotes (.inl rfl) (.inr rfl) hvalue
  obtain rfl := hexact (.inr (by decide))
  exact ⟨_, hvalue, hdenotes⟩

/-- The next whole number is written as two to the power of 53, too. -/
theorem not_denotes_twoPow53_succ :
    ∃ value, (number (.integer 9007199254740993)).literal .numeric = .ok value ∧
      (TableContext.literal value).Denotes 9007199254740992 ∧
      ¬(TableContext.literal value).Denotes 9007199254740993 := by
  have htext : Text.numeral? ((Binary64.ofInt 9007199254740993).text .plain) =
      some 9007199254740992 := by
    decide +kernel
  refine ⟨_, literal_numeric (by decide +kernel), (Sql.Value.denotes_iff rfl).mpr htext, ?_⟩
  rw [Sql.Value.denotes_iff rfl, htext]
  decide

end Json

end QueryModel
