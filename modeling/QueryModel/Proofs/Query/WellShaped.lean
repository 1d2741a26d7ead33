import QueryModel.Proofs.Query.Positions
import QueryModel.Query.Evaluation

/-! # Where lists stand

A list stands on the right of a test for membership and nowhere else, and every test for membership
has one. Evaluation reads a list as null, and gives up on a list or on the lack of one, where this
is not so; here is an evaluation that has no value there, and the proof that on well-shaped trees it
always has the value that evaluation has.
-/

namespace QueryModel

/-- The two operators on lists. -/
def Operator.IsMembership (operator : Operator) : Prop := operator = .isIn ∨ operator = .notIn

theorem Operator.isMultiValued_iff (operator : Operator) :
    operator.isMultiValued ↔ operator.IsMembership := by
  cases operator <;> simp [isMultiValued, IsMembership]

/-- A node whose operands stand where they can stand, and whose literal is a finite number if it is
a floating point number. -/
structure Node.IsWellShaped (node : Node) : Prop where
  /-- A list is the second operand of a test for membership. In particular it is in no list. -/
  list_operand : ∀ index values, node.operands[index]? = some (.expression (.list values)) →
    index = 1 ∧ ∃ id left operator, operator.IsMembership ∧
      node = .predicate (.comparison id left operator (.list values))
  /-- A test for membership has a list on its right. -/
  membership : ∀ id left operator right, operator.IsMembership →
    node = .predicate (.comparison id left operator right) → ∃ values, right = .list values
  /-- No list is empty. -/
  elements_ne_nil : ∀ values, node = .expression (.list values) → values.elements ≠ []
  /-- Neither an infinite literal nor one that is no number. -/
  isFinite_literal : ∀ scalar x, node = .expression (.scalar scalar) →
    scalar.source = .literal (.float x) → x.isFinite

namespace Node

/-- What stands in an operand position of a predicate other than a comparison is no list. -/
theorem notMem_operands_of_ne_comparison {predicate : Predicate} {values : ValueList}
    (hcomparison : ∀ id left operator right, predicate ≠ .comparison id left operator right) :
    expression (.list values) ∉ (Node.predicate predicate).operands := by
  cases predicate with
  | comparison id left operator right => exact (hcomparison id left operator right rfl).elim
  | junction => simp [operands, Predicate.operands]
  | negation => simp [operands, Predicate.operands]
  | nullness => simp [operands, Predicate.operands]
  | between => simp [operands, Predicate.operands]

/-- What holds of everything below a node holds of everything below its operands. -/
theorem forall_subnodes_operands {property : Node → Prop} {node : Node}
    (hnode : ∀ below ∈ node.subnodes, property below) :
    ∀ operand ∈ node.operands, ∀ below ∈ operand.subnodes, property below :=
  fun _ hoperand _ hbelow => hnode _ (mem_subnodes_of_operand hoperand hbelow)

/-- A node that can be built is well shaped. -/
theorem IsShaped.isWellShaped {node : Node} (hshaped : node.IsShaped) : node.IsWellShaped where
  list_operand index values hindex := by
    have hmem := List.mem_of_getElem? hindex
    cases node with
    | expression tree => cases tree <;> simp [operands] at hmem
    | predicate tree =>
      cases tree with
      | comparison id left operator right =>
        have hoperands : (Node.predicate (.comparison id left operator right)).operands =
          [.expression (.scalar left), .expression right] := rfl
        rw [hoperands] at hindex
        rcases index with _ | _ | index
        · simp at hindex
        · obtain rfl : right = .list values := by simpa using hindex
          exact ⟨rfl, id, left, operator, operator.isMultiValued_iff.mp hshaped, rfl⟩
        · simp at hindex
      | _ => exact (notMem_operands_of_ne_comparison (by simp) hmem).elim
  membership := by
    rintro id left operator right hoperator rfl
    have hlist : right.isList := hshaped.symm.trans (operator.isMultiValued_iff.mpr hoperator)
    cases right with
    | scalar node => cases hlist
    | list values => exact ⟨values, rfl⟩
  elements_ne_nil := by
    rintro values rfl
    exact hshaped
  isFinite_literal := by
    rintro scalar x rfl hsource
    exact hshaped x hsource

end Node

/-! ## Evaluation without fallbacks -/

/-- The value of an expression where a single value is read; a list has none. -/
def Expression.value? (bindings : Bindings) : Expression → Option Value
  | .scalar node => some (node.value bindings)
  | .list _ => none

/-- The values of an expression where a list is read; what is no list has none. -/
def Expression.values? (bindings : Bindings) : Expression → Option (List Value)
  | .scalar _ => none
  | .list values => (values.elements.map Expression.scalar).mapM (Expression.value? bindings)

/-- The truth value of a predicate, if no list is read as a single value and no single value as a
list on the way. -/
def Predicate.evaluate? (bindings : Bindings) : Predicate → Option Truth
  | .comparison _ left operator right => do
    let value ← (Expression.scalar left).value? bindings
    match operator with
    | .isIn => return value.isAmong (← right.values? bindings)
    | .notIn => return (value.isAmong (← right.values? bindings)).not
    | operator => return value.compared operator (← right.value? bindings)
  | .junction _ left .and right =>
    return (← left.evaluate? bindings).and (← right.evaluate? bindings)
  | .junction _ left .or right =>
    return (← left.evaluate? bindings).or (← right.evaluate? bindings)
  | .negation _ inner => return (← inner.evaluate? bindings).not
  | .nullness _ operand negated => do
    let value ← (Expression.scalar operand).value? bindings
    return .ofBool (decide (value = .null) != negated)
  | .between _ operand lower upper negated => do
    let value ← (Expression.scalar operand).value? bindings
    let lower ← (Expression.scalar lower).value? bindings
    let upper ← (Expression.scalar upper).value? bindings
    return Truth.negateIf negated
      ((value.compared .greaterThanOrEqual lower).and (value.compared .lessThanOrEqual upper))

section evaluate?

variable (bindings : Bindings)

@[simp]
theorem Expression.value?_scalar (scalar : Scalar) :
    (Expression.scalar scalar).value? bindings = some (scalar.value bindings) := rfl

@[simp]
theorem Expression.values?_list (values : ValueList) :
    (Expression.list values).values? bindings =
      some (values.elements.map (Scalar.value bindings)) := by
  rw [values?, List.mapM_map]
  exact List.mapM_pure

/-- A well-shaped comparison is evaluated without fallbacks. -/
theorem Predicate.evaluate?_comparison {id : NodeId} {left : Scalar} {operator : Operator}
    {right : Expression}
    (hshaped : (Node.predicate (.comparison id left operator right)).IsWellShaped) :
    evaluate? bindings (.comparison id left operator right) =
      some (evaluate bindings (.comparison id left operator right)) := by
  cases right with
  | scalar node =>
    have hoperator : ¬operator.IsMembership := by
      intro hoperator
      obtain ⟨values, hvalues⟩ := hshaped.membership _ _ _ _ hoperator rfl
      cases hvalues
    cases operator with
    | isIn => exact (hoperator (.inl rfl)).elim
    | notIn => exact (hoperator (.inr rfl)).elim
    | _ => rfl
  | list values =>
    obtain ⟨-, _, _, _, hoperator, hsame⟩ := hshaped.list_operand 1 values rfl
    cases hsame
    obtain rfl | rfl := hoperator <;> simp [evaluate?, evaluate, Expression.compared]

/-- A tree of well-shaped nodes is evaluated without fallbacks. -/
theorem Predicate.evaluate?_eq (predicate : Predicate)
    (hshaped : ∀ below ∈ (Node.predicate predicate).subnodes, below.IsWellShaped) :
    predicate.evaluate? bindings = some (predicate.evaluate bindings) := by
  induction predicate with
  | comparison id left operator right =>
    exact evaluate?_comparison bindings (hshaped _ (Node.mem_subnodes_self _))
  | junction id left connective right ihleft ihright =>
    obtain ⟨hleft, hright⟩ :=
      Node.forall_operands_junction.mp (Node.forall_subnodes_operands hshaped)
    cases connective <;> simp [evaluate?, evaluate, ihleft hleft, ihright hright]
  | negation id inner ih =>
    have hinner := Node.forall_operands_negation.mp (Node.forall_subnodes_operands hshaped)
    simp [evaluate?, evaluate, ih hinner]
  | nullness => rfl
  | between => rfl

end evaluate?

end QueryModel
