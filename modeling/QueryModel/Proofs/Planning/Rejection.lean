import QueryModel.Planning.Literal

/-! # How values are rejected

A JSON value that is no literal of the expected type is rejected. Main statement: the error is about
the type that was expected and the value that was given, with one exception: where a whole number is
expected, a string that spells one of 64 bits is rejected as that number, and not as the string.
-/

namespace QueryModel.Json

/-- `given.Reports type error`: the error says that arrays or objects are not supported, if the value
is one of them, and that the value itself does not suit the type otherwise. -/
def Reports (given : Json) (type : ScalarType) (error : PlanError) : Prop :=
  match given with
  | .array _ => error = .notSupported .arrayValues
  | .object _ => error = .notSupported .objectValues
  | .null | .boolean _ | .number _ | .string _ => error = .typeMismatch given type

/-- `given.IsReadAs type n`: the value is a string that is read as a whole number for the type. -/
def IsReadAs (given : Json) (type : ScalarType) (n : Int) : Prop :=
  type.wholeBits?.isSome ∧ ∃ text, given = .string text ∧ Text.word? text = some n

section strings

variable {text : String} {type : ScalarType}

/-- A string that is read as a whole number becomes what the number becomes. -/
theorem literal_string_of_word? {n : Int} (htype : type.wholeBits?.isSome)
    (hn : Text.word? text = some n) :
    (string text).literal type = (number (.integer n)).literal type := by
  simp only [literal, if_pos htype, hn]

theorem reports_string {error : PlanError} (hrejected : (string text).literal type = .error error)
    (hword : type.wholeBits?.isSome → Text.word? text = none) :
    (string text).Reports type error := by
  dsimp only [literal] at hrejected
  split at hrejected
  · next htype =>
    rw [hword htype] at hrejected
    exact (Except.error.inj hrejected).symm
  · split at hrejected
    · split at hrejected
      · cases hrejected
      · exact (Except.error.inj hrejected).symm
    · split at hrejected
      · cases hrejected
      · exact (Except.error.inj hrejected).symm

end strings

theorem reports_number {given : Number} {type : ScalarType} {error : PlanError}
    (hrejected : (number given).literal type = .error error) : (number given).Reports type error := by
  dsimp only [literal] at hrejected
  split at hrejected
  · cases hrejected
  · exact (Except.error.inj hrejected).symm

section rejected

variable {given : Json} {type : ScalarType} {error : PlanError}

/-- A value that is not read as a number is reported as it was given. -/
theorem reports_of_not_isReadAs (hrejected : given.literal type = .error error)
    (hgiven : ∀ n, ¬given.IsReadAs type n) : given.Reports type error := by
  cases given with
  | null => cases hrejected
  | boolean value =>
    dsimp only [literal] at hrejected
    split at hrejected
    · cases hrejected
    · exact (Except.error.inj hrejected).symm
  | number given => exact reports_number hrejected
  | string text =>
    refine reports_string hrejected fun htype => ?_
    exact Option.eq_none_iff_forall_ne_some.mpr fun n hn => hgiven n ⟨htype, text, rfl, hn⟩
  | array items => exact (Except.error.inj hrejected).symm
  | object members => exact (Except.error.inj hrejected).symm

/-- A string that is read as a number is reported as the number. -/
theorem error_of_isReadAs {n : Int} (hrejected : given.literal type = .error error)
    (hgiven : given.IsReadAs type n) : error = .typeMismatch (.number (.integer n)) type := by
  obtain ⟨htype, text, rfl, hn⟩ := hgiven
  rw [literal_string_of_word? htype hn] at hrejected
  exact reports_number hrejected

/-- A rejected value is reported as it was given, except a string that is read as a whole number:
the error is then about the number. -/
theorem reports_iff_and_error_eq (hrejected : given.literal type = .error error) :
    (given.Reports type error ↔ ∀ n, ¬given.IsReadAs type n) ∧
      ∀ n, given.IsReadAs type n → error = .typeMismatch (.number (.integer n)) type := by
  refine ⟨⟨fun hreports n hgiven => ?_, reports_of_not_isReadAs hrejected⟩,
    fun n => error_of_isReadAs hrejected⟩
  have herror := error_of_isReadAs hrejected hgiven
  obtain ⟨-, text, rfl, -⟩ := hgiven
  cases herror.symm.trans hreports

end rejected

/-- A string beyond a type of whole numbers is reported as a number, and one that spells no whole
number as it was given. -/
theorem reports_iff_beyondInteger :
    (string "-3000000000").literal .integer =
        .error (.typeMismatch (.number (.integer (-3000000000))) .integer) ∧
      ¬(string "-3000000000").Reports .integer
        (.typeMismatch (.number (.integer (-3000000000))) .integer) ∧
      (string "3e9").Reports .integer (.typeMismatch (.string "3e9") .integer) := by
  have hbeyond : (string "-3000000000").literal .integer =
      .error (.typeMismatch (.number (.integer (-3000000000))) .integer) := rfl
  have hspelled : (string "3e9").literal .integer =
      .error (.typeMismatch (.string "3e9") .integer) := rfl
  refine ⟨hbeyond, fun hreports => ?_, (reports_iff_and_error_eq hspelled).1.mpr ?_⟩
  · exact (reports_iff_and_error_eq hbeyond).1.mp hreports (-3000000000) ⟨rfl, _, rfl, rfl⟩
  · rintro n ⟨-, text, htext, hword⟩
    cases htext
    cases hword

/-- Not every rejected value is reported as it was given. -/
theorem not_forall_reports :
    ¬∀ (given : Json) (type : ScalarType) (error : PlanError),
      given.literal type = .error error → given.Reports type error := by
  intro hreports
  cases hreports (.string "70000") .smallint (.typeMismatch (.number (.integer 70000)) .smallint) rfl

end QueryModel.Json
