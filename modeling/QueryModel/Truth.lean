/-! # Three-valued truth

The truth values of Kleene's logic, in which a comparison with a null is neither true nor false.
-/

namespace QueryModel

/-- A truth value. -/
inductive Truth where
  | holds
  | fails
  | unknown
deriving DecidableEq

namespace Truth

/-- Both hold. It fails when either does. -/
protected def and : Truth → Truth → Truth
  | .fails, _ => .fails
  | _, .fails => .fails
  | .holds, .holds => .holds
  | .holds, .unknown => .unknown
  | .unknown, .holds => .unknown
  | .unknown, .unknown => .unknown

/-- One of both holds. It holds when either does. -/
protected def or : Truth → Truth → Truth
  | .holds, _ => .holds
  | _, .holds => .holds
  | .fails, .fails => .fails
  | .fails, .unknown => .unknown
  | .unknown, .fails => .unknown
  | .unknown, .unknown => .unknown

/-- The opposite; what is unknown stays so. -/
protected def not : Truth → Truth
  | .holds => .fails
  | .fails => .holds
  | .unknown => .unknown

/-- The truth value of a decided question. -/
def ofBool (value : Bool) : Truth := if value then .holds else .fails

/-- The negation of a truth value, if it is asked for. -/
def negateIf (negated : Bool) (value : Truth) : Truth := if negated then value.not else value

@[simp]
theorem not_not (value : Truth) : value.not.not = value := by
  cases value <;> rfl

theorem not_and (left right : Truth) : (left.and right).not = left.not.or right.not := by
  cases left <;> cases right <;> rfl

theorem not_or (left right : Truth) : (left.or right).not = left.not.and right.not := by
  cases left <;> cases right <;> rfl

@[simp]
theorem not_ofBool (value : Bool) : (ofBool value).not = ofBool (!value) := by
  cases value <;> rfl

end Truth

end QueryModel
