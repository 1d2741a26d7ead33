import QueryModel.Planning.Analysis

/-! # What a literal can be

A JSON value is read as a literal where it suits the type that is expected. Main statement: the
literal is a value of the type that its node has, and no whole number, no floating point number and
no string is read as anything that the type does not hold.
-/

namespace QueryModel

/-- `type.Holds value`: the value is one of the type. Null is one of every type. -/
def ScalarType.Holds (type : ScalarType) : Value → Prop
  | .null => True
  | .boolean _ => type = .boolean
  | .integer n =>
    match type with
    | .smallint => -32768 ≤ n ∧ n < 32768
    | .integer => -2147483648 ≤ n ∧ n < 2147483648
    | .bigint => -9223372036854775808 ≤ n ∧ n < 9223372036854775808
    | _ => False
  | .float x => (type = .real ∨ type = .doublePrecision ∨ type = .numeric) ∧ x.isFinite
  | .string _ => type.isTextual

/-- The type of the node of a literal, where a type is expected: a value that is compared with
nothing has a type of its own. -/
def Analysis.literalType (expected : ScalarType) (value : Value) : ScalarType :=
  if expected = .any then Building.literalType value else expected

namespace ScalarType

theorem holds_integer {type : ScalarType} {bits : Nat} {n : Int} (hbits : type.wholeBits? = some bits)
    (hfits : Json.fitsBits bits n) : type.Holds (.integer n) := by
  unfold Json.fitsBits at hfits
  simp only [Bool.and_eq_true, decide_eq_true_eq] at hfits
  obtain ⟨hupper, hlower⟩ := hfits
  cases type <;> cases hbits <;> exact ⟨hlower, hupper⟩

theorem holds_float {type : ScalarType} {x : Binary64} (hfloating : type.isFloating)
    (hfinite : x.isFinite) : type.Holds (.float x) := by
  refine ⟨?_, hfinite⟩
  cases type <;> cases hfloating <;> decide +revert

end ScalarType

namespace Json

theorem Number.isFinite_of_binary64? {number : Number} {x : Binary64}
    (hx : number.binary64? = some x) : x.isFinite := by
  cases number with
  | integer n =>
    rw [binary64?] at hx
    generalize Binary64.ofInt n = nearest at hx
    split at hx
    · next hfinite =>
      obtain rfl := Option.some.inj hx
      exact hfinite
    · cases hx
  | float given =>
    obtain rfl := Option.some.inj hx
    rfl

theorem Number.isWord_of_word? {number : Number} {n : Int} (hn : number.word? = some n) :
    Text.isWord n := by
  cases number with
  | integer given =>
    rw [word?] at hn
    split at hn
    · next hword =>
      obtain rfl := Option.some.inj hn
      exact hword
    · cases hn
  | float given => cases hn

/-- Numbers are read as literals that their type holds. -/
theorem holds_of_numberLiteral? {number : Number} {expected : ScalarType} {value : Value}
    (hvalue : numberLiteral? number expected = some value) :
    (Analysis.literalType expected value).Holds value := by
  unfold numberLiteral? at hvalue
  unfold Analysis.literalType
  split at hvalue
  · next bits hbits =>
    obtain ⟨n, hn, rfl⟩ := Option.map_eq_some_iff.mp hvalue
    have hfits : fitsBits bits n := (Option.filter_eq_some_iff.mp hn).2
    have hany : expected ≠ .any := by
      rintro rfl
      cases hbits
    rw [if_neg hany]
    exact ScalarType.holds_integer hbits hfits
  · split at hvalue
    · next hfloating =>
      obtain ⟨x, hx, rfl⟩ := Option.map_eq_some_iff.mp hvalue
      have hany : expected ≠ .any := by
        rintro rfl
        cases hfloating
      rw [if_neg hany]
      exact ScalarType.holds_float hfloating (Number.isFinite_of_binary64? hx)
    · split at hvalue
      · next hany =>
        rw [if_pos hany]
        split at hvalue
        · next n hn =>
          cases hvalue
          have hword := Number.isWord_of_word? hn
          simp only [Text.isWord, Bool.and_eq_true, decide_eq_true_eq] at hword
          exact hword
        · obtain ⟨x, hx, rfl⟩ := Option.map_eq_some_iff.mp hvalue
          exact ScalarType.holds_float rfl (Number.isFinite_of_binary64? hx)
      · cases hvalue

/-- A JSON value is read as a literal that the type of its node holds. -/
theorem holds_of_literal {given : Json} {expected : ScalarType} {value : Value}
    (hvalue : given.literal expected = .ok value) :
    (Analysis.literalType expected value).Holds value := by
  cases given with
  | null =>
    cases hvalue
    trivial
  | boolean b =>
    dsimp only [literal] at hvalue
    split at hvalue
    · next htype =>
      cases hvalue
      rcases htype with rfl | rfl <;> rfl
    · cases hvalue
  | number number =>
    dsimp only [literal] at hvalue
    split at hvalue
    · next found hfound =>
      cases hvalue
      exact holds_of_numberLiteral? hfound
    · cases hvalue
  | string text =>
    dsimp only [literal] at hvalue
    split at hvalue
    · split at hvalue
      · cases hvalue
      · split at hvalue
        · next found hfound =>
          cases hvalue
          exact holds_of_numberLiteral? hfound
        · cases hvalue
    · split at hvalue
      · next hfloating =>
        split at hvalue
        · next x hx =>
          cases hvalue
          have hany : expected ≠ .any := by
            rintro rfl
            cases hfloating
          rw [Analysis.literalType, if_neg hany]
          exact ScalarType.holds_float hfloating (Option.filter_eq_some_iff.mp hx).2
        · cases hvalue
      · split at hvalue
        · next htype =>
          cases hvalue
          unfold Analysis.literalType
          split
          · rfl
          · next hany => exact htype.resolve_right hany
        · cases hvalue
  | array items => cases hvalue
  | object members => cases hvalue

theorem isFinite_of_literal {given : Json} {expected : ScalarType} {x : Binary64}
    (hvalue : given.literal expected = .ok (.float x)) : x.isFinite :=
  (holds_of_literal hvalue).2

end Json

end QueryModel
