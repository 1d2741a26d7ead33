import QueryModel.Proofs.Query.Building
import QueryModel.Proofs.Query.Distributed

/-! # Trees without their data

The data of a tree are its strings, the names of its parameters and their positions. Taking the data
away leaves a tree of the same shape. It commutes with building nodes and with distributing
negations, which do not look at the data.
-/

namespace QueryModel

/-- A value without its characters, if it is a string. -/
def Value.redacted : Value → Value
  | .string _ => .string ""
  | .null => .null
  | .boolean value => .boolean value
  | .integer n => .integer n
  | .float x => .float x

/-- A parameter without its name or its position. -/
def Parameter.redacted : Parameter → Parameter
  | .named _ => .named ""
  | .positional _ => .positional 0

/-- A source without its data. -/
def Source.redacted : Source → Source
  | .literal value => .literal value.redacted
  | .parameter given => .parameter given.redacted
  | .path root attributeName => .path root attributeName

/-- A scalar without its data. -/
def Scalar.redacted (scalar : Scalar) : Scalar := { scalar with source := scalar.source.redacted }

/-- A list without the data of its elements. -/
def ValueList.redacted (values : ValueList) : ValueList :=
  { values with elements := values.elements.map Scalar.redacted }

/-- An expression without its data. -/
def Expression.redacted : Expression → Expression
  | .scalar node => .scalar node.redacted
  | .list values => .list values.redacted

/-- A predicate without its data. -/
def Predicate.redacted : Predicate → Predicate
  | .comparison id left operator right => .comparison id left.redacted operator right.redacted
  | .junction id left connective right => .junction id left.redacted connective right.redacted
  | .negation id inner => .negation id inner.redacted
  | .nullness id operand negated => .nullness id operand.redacted negated
  | .between id operand lower upper negated =>
    .between id operand.redacted lower.redacted upper.redacted negated

/-- A statement without the data of its predicate. -/
def Statement.redacted (statement : Statement) : Statement :=
  { statement with predicate := statement.predicate.map Predicate.redacted }

@[simp]
theorem Expression.type_redacted (expression : Expression) :
    expression.redacted.type = expression.type := by
  cases expression <;> rfl

@[simp]
theorem Expression.isList_redacted (expression : Expression) :
    expression.redacted.isList = expression.isList := by
  cases expression <;> rfl

theorem Expression.scalar?_redacted (expression : Expression) :
    expression.redacted.scalar? = expression.scalar?.map Scalar.redacted := by
  cases expression <;> rfl

theorem Predicate.redacted_distributed (predicate : Predicate) (negated : Bool) :
    (predicate.distributed negated).redacted = predicate.redacted.distributed negated := by
  induction predicate generalizing negated with
  | comparison id left operator right => rfl
  | junction id left connective right ihleft ihright =>
    simp only [distributed, redacted, ihleft, ihright]
  | negation id inner ih => exact ih _
  | nullness id operand wasNegated => rfl
  | between id operand lower upper wasNegated => rfl

/-! ## Building nodes without data -/

namespace Building

theorem typedLiteral_redacted (value : Value) (type : ScalarType) :
    typedLiteral value.redacted type = Scalar.redacted <$> typedLiteral value type := by
  cases value with
  | float x =>
    simp only [Value.redacted, typedLiteral]
    split <;> rfl
  | _ => rfl

theorem list_redacted (elements : List Expression) :
    list (elements.map Expression.redacted) = ValueList.redacted <$> list elements := by
  cases elements with
  | nil => rfl
  | cons first rest =>
    have hscalars := mapM_scalar?_map Expression.scalar?_redacted (first :: rest)
    rw [List.map_cons] at hscalars ⊢
    unfold list
    dsimp only
    rw [hscalars, Expression.type_redacted]
    cases (first :: rest).mapM Expression.scalar? <;> rfl

theorem comparison_redacted (left : Expression) (operator : Operator) (right : Expression) :
    comparison left.redacted operator right.redacted =
      Predicate.redacted <$> comparison left operator right := by
  cases left with
  | list values => rfl
  | scalar node =>
    have hleft : (Expression.scalar node).redacted = .scalar node.redacted := rfl
    simp only [hleft, comparison, Expression.isList_redacted]
    split
    · rfl
    · split <;> rfl

theorem junctionAll_redacted (connective : Connective) (predicates : List Predicate) :
    junctionAll connective (predicates.map Predicate.redacted) =
      Predicate.redacted <$> junctionAll connective predicates := by
  have hfold (first : Predicate) (rest : List Predicate) :
      ((rest.map Predicate.redacted).foldlM (fun left right => junction left connective right)
          first.redacted : Building ConstructionError Predicate) =
        Predicate.redacted <$>
          rest.foldlM (fun left right => junction left connective right) first := by
    induction rest generalizing first with
    | nil => rfl
    | cons second rest ih =>
      rw [List.map_cons, List.foldlM_cons, List.foldlM_cons, map_bind]
      simp only [← ih]
      rfl
  cases predicates with
  | nil => rfl
  | cons first rest => exact hfold first rest

theorem nullness_redacted (operand : Expression) (negated : Bool) :
    nullness operand.redacted negated = Predicate.redacted <$> nullness operand negated := by
  cases operand <;> rfl

theorem between_redacted (operand lower upper : Expression) (negated : Bool) :
    between operand.redacted lower.redacted upper.redacted negated =
      Predicate.redacted <$> between operand lower upper negated := by
  cases operand <;> cases lower <;> cases upper <;> rfl

end Building

end QueryModel
