import QueryModel.Query.Evaluation

/-! # Trees without identities

What a tree means does not depend on the identities of its nodes. Two trees that are the same apart
from them are compared by taking the identities away from both.
-/

namespace QueryModel

/-- The scalar without its identity. -/
def Scalar.anonymous (scalar : Scalar) : Scalar := { scalar with id := 0 }

/-- The list without the identities of its nodes. -/
def ValueList.anonymous (values : ValueList) : ValueList :=
  { values with id := 0, elements := values.elements.map Scalar.anonymous }

/-- The expression without the identities of its nodes. -/
def Expression.anonymous : Expression → Expression
  | .scalar node => .scalar node.anonymous
  | .list values => .list values.anonymous

/-- The predicate without the identities of its nodes. -/
def Predicate.anonymous : Predicate → Predicate
  | .comparison _ left operator right => .comparison 0 left.anonymous operator right.anonymous
  | .junction _ left connective right => .junction 0 left.anonymous connective right.anonymous
  | .negation _ inner => .negation 0 inner.anonymous
  | .nullness _ operand negated => .nullness 0 operand.anonymous negated
  | .between _ operand lower upper negated =>
    .between 0 operand.anonymous lower.anonymous upper.anonymous negated

@[simp]
theorem Expression.isList_anonymous (expression : Expression) :
    expression.anonymous.isList = expression.isList := by
  cases expression <;> rfl

@[simp]
theorem Scalar.value_anonymous (bindings : Bindings) (scalar : Scalar) :
    scalar.anonymous.value bindings = scalar.value bindings := rfl

@[simp]
theorem Expression.compared_anonymous (bindings : Bindings) (left : Value) (operator : Operator)
    (right : Expression) :
    right.anonymous.compared bindings left operator = right.compared bindings left operator := by
  cases right with
  | scalar node => rfl
  | list values =>
    have hvalues : values.anonymous.elements.map (Scalar.value bindings) =
        values.elements.map (Scalar.value bindings) := by
      simp [ValueList.anonymous, Function.comp_def]
    simp only [anonymous, compared, hvalues]

@[simp]
theorem Predicate.evaluate_anonymous (bindings : Bindings) (predicate : Predicate) :
    predicate.anonymous.evaluate bindings = predicate.evaluate bindings := by
  induction predicate with
  | comparison id left operator right => simp [anonymous, evaluate]
  | junction id left connective right ihleft ihright =>
    cases connective <;> simp [anonymous, evaluate, ihleft, ihright]
  | negation id inner ih => simp [anonymous, evaluate, ih]
  | nullness id operand negated => rfl
  | between id operand lower upper negated => rfl

/-- Predicates that differ in identities only have one truth value. -/
theorem Predicate.evaluate_eq_of_anonymous_eq {left right : Predicate}
    (hsame : left.anonymous = right.anonymous) (bindings : Bindings) :
    left.evaluate bindings = right.evaluate bindings := by
  rw [← evaluate_anonymous, hsame, evaluate_anonymous]

end QueryModel
