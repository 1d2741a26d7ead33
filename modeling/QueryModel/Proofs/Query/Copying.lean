import Mathlib.Data.List.Forall2
import QueryModel.Proofs.Query.Anonymous
import QueryModel.Proofs.Query.Store
import QueryModel.Session.Run
import Std.Data.HashMap.Lemmas

/-! # Copying, node by node

Nodes of every sort are copied in one way: a node whose copy is remembered is not copied again, and
any other one is made anew over the copies of its operands, from left to right.
-/

namespace QueryModel

namespace Node

/-- Copy a node and everything below it. -/
def copy : Node → Copying Node
  | .expression tree => return .expression (← tree.copy)
  | .predicate tree => return .predicate (← tree.copy)

/-- The node without the identities of its nodes. -/
def anonymous : Node → Node
  | .expression tree => .expression tree.anonymous
  | .predicate tree => .predicate tree.anonymous

/-- The scalar that a node is, if it is one. -/
def scalar? : Node → Option Scalar
  | .expression tree => tree.scalar?
  | .predicate _ => none

/-- A node like another one, with an identity and operands of its own. -/
def rebuilt (node : Node) (id : NodeId) (operands : List Node) : Node :=
  match node, operands with
  | .expression (.scalar scalar), _ => .expression (.scalar { scalar with id := id })
  | .expression (.list values), elements =>
    .expression (.list { values with id := id, elements := elements.filterMap scalar? })
  | .predicate (.comparison _ _ operator _), [.expression (.scalar left), .expression right] =>
    .predicate (.comparison id left operator right)
  | .predicate (.junction _ _ connective _), [.predicate left, .predicate right] =>
    .predicate (.junction id left connective right)
  | .predicate (.negation _ _), [.predicate inner] => .predicate (.negation id inner)
  | .predicate (.nullness _ _ negated), [.expression (.scalar operand)] =>
    .predicate (.nullness id operand negated)
  | .predicate (.between _ _ _ _ negated),
      [.expression (.scalar operand), .expression (.scalar lower), .expression (.scalar upper)] =>
    .predicate (.between id operand lower upper negated)
  | _, _ => node

end Node

namespace CopyContext

/-- The context in which the copy of one more node is remembered. -/
def remember (context : CopyContext) : Node → Node → CopyContext
  | .expression (.scalar node), .expression (.scalar copy) =>
    { context with scalars := context.scalars.insert node.id copy }
  | .expression (.list values), .expression (.list copy) =>
    { context with lists := context.lists.insert values.id copy }
  | .predicate node, .predicate copy =>
    { context with predicates := context.predicates.insert node.id copy }
  | _, _ => context

end CopyContext

namespace Copying

theorem get_bind {α : Type} (rest : CopyState → Copying α) (state : CopyState) :
    (MonadState.get >>= rest : Copying α) state = rest state state := rfl

theorem mapM_nil_apply {α β : Type} (copy : α → Copying β) (state : CopyState) :
    [].mapM copy state = ([], state) := rfl

theorem mapM_cons_apply {α β : Type} (copy : α → Copying β) (first : α) (rest : List α)
    (state : CopyState) :
    (first :: rest).mapM copy state =
      ((copy first state).1 :: (rest.mapM copy (copy first state).2).1,
        (rest.mapM copy (copy first state).2).2) := by
  rw [List.mapM_cons]
  rfl

end Copying

namespace Node

open Copying

theorem mapM_copy_scalars (scalars : List Scalar) (state : CopyState) :
    (scalars.map (expression ∘ .scalar)).mapM copy state =
      ((scalars.mapM Scalar.copy state).1.map (expression ∘ .scalar),
        (scalars.mapM Scalar.copy state).2) := by
  induction scalars generalizing state with
  | nil => rfl
  | cons scalar rest ih =>
    have hfirst : copy (expression (.scalar scalar)) state =
        (.expression (.scalar (scalar.copy state).1), (scalar.copy state).2) := rfl
    rw [List.map_cons, mapM_cons_apply, mapM_cons_apply, Function.comp_apply, hfirst, ih]
    rfl

theorem operands_list (values : ValueList) :
    (expression (.list values)).operands = values.elements.map (expression ∘ .scalar) := rfl

theorem filterMap_scalar?_map (scalars : List Scalar) :
    (scalars.map (expression ∘ .scalar)).filterMap scalar? = scalars := by
  rw [List.filterMap_map]
  exact List.filterMap_some

/-- What copying a node does. -/
theorem copy_eq (node : Node) (state : CopyState) :
    node.copy state =
      match state.context.node? node with
      | some known => (known, state)
      | none =>
        let (copies, later) := node.operands.mapM copy state
        let made := node.rebuilt later.next copies
        (made, ⟨later.next + 1, later.context.remember node made⟩) := by
  cases node with
  | expression tree =>
    cases tree with
    | scalar scalar =>
      change (Node.expression (.scalar (scalar.copy state).1), (scalar.copy state).2) = _
      simp only [CopyContext.node?, CopyContext.expression?]
      rw [Scalar.copy, get_bind]
      cases state.context.scalars[scalar.id]? with
      | some known => rfl
      | none => rfl
    | list values =>
      change (Node.expression (.list (values.copy state).1), (values.copy state).2) = _
      have hcopies := mapM_copy_scalars values.elements state
      have helements := filterMap_scalar?_map (values.elements.mapM Scalar.copy state).1
      simp only [CopyContext.node?, CopyContext.expression?]
      rw [ValueList.copy, get_bind]
      cases state.context.lists[values.id]? with
      | some known => rfl
      | none =>
        rw [Option.map_none, operands_list, hcopies]
        simp only [rebuilt, helements]
        rfl
  | predicate tree =>
    change (Node.predicate (tree.copy state).1, (tree.copy state).2) = _
    simp only [CopyContext.node?, CopyContext.predicate?]
    rw [Predicate.copy.eq_def, get_bind]
    cases state.context.predicates[tree.id]? with
    | some known => rfl
    | none => cases tree <;> rfl

/-! ## The node that is made -/

/-- `node.IsAlike other`: the nodes differ in identities only. -/
def IsAlike (node other : Node) : Prop := other.anonymous = node.anonymous

theorem isAlike_scalar {scalar : Scalar} {other : Node}
    (halike : (expression (.scalar scalar)).IsAlike other) :
    ∃ copy : Scalar, other = .expression (.scalar copy) ∧ copy.anonymous = scalar.anonymous := by
  rcases other with (copy | copy) | copy
  · injection halike with halike
    injection halike with halike
    exact ⟨copy, rfl, halike⟩
  · injection halike with halike
    cases halike
  · cases halike

theorem isAlike_expression {tree : Expression} {other : Node}
    (halike : (expression tree).IsAlike other) :
    ∃ copy : Expression, other = .expression copy ∧ copy.anonymous = tree.anonymous := by
  cases other with
  | expression copy =>
    injection halike with halike
    exact ⟨copy, rfl, halike⟩
  | predicate copy => cases halike

theorem isAlike_predicate {tree : Predicate} {other : Node}
    (halike : (predicate tree).IsAlike other) :
    ∃ copy : Predicate, other = .predicate copy ∧ copy.anonymous = tree.anonymous := by
  cases other with
  | expression copy => cases halike
  | predicate copy =>
    injection halike with halike
    exact ⟨copy, rfl, halike⟩

/-- Nodes that differ in identities only are of one sort. -/
theorem IsAlike.cases {node other : Node} (halike : node.IsAlike other) :
    (∃ scalar copy, node = .expression (.scalar scalar) ∧ other = .expression (.scalar copy)) ∨
      (∃ values copy, node = .expression (.list values) ∧ other = .expression (.list copy)) ∨
        ∃ tree copy, node = .predicate tree ∧ other = .predicate copy := by
  cases node with
  | expression tree =>
    cases tree with
    | scalar scalar =>
      obtain ⟨copy, rfl, -⟩ := isAlike_scalar halike
      exact Or.inl ⟨_, _, rfl, rfl⟩
    | list values =>
      obtain ⟨copy, rfl, hcopy⟩ := isAlike_expression halike
      cases copy with
      | scalar scalar => cases hcopy
      | list copy => exact Or.inr (Or.inl ⟨_, _, rfl, rfl⟩)
  | predicate tree =>
    obtain ⟨copy, rfl, -⟩ := isAlike_predicate halike
    exact Or.inr (Or.inr ⟨_, _, rfl, rfl⟩)

theorem isAlike_scalars {scalars : List Scalar} {others : List Node}
    (halike : List.Forall₂ IsAlike (scalars.map (expression ∘ .scalar)) others) :
    ∃ copies : List Scalar, others = copies.map (expression ∘ .scalar) ∧
      copies.map Scalar.anonymous = scalars.map Scalar.anonymous := by
  induction scalars generalizing others with
  | nil => cases halike; exact ⟨[], rfl, rfl⟩
  | cons scalar rest ih =>
    cases halike with
    | cons hfirst hrest =>
      obtain ⟨copy, rfl, hcopy⟩ := isAlike_scalar hfirst
      obtain ⟨copies, rfl, hcopies⟩ := ih hrest
      exact ⟨copy :: copies, rfl, by rw [List.map_cons, List.map_cons, hcopy, hcopies]⟩

/-- A node that is made over operands like those of another node has these operands and is like the
other node. -/
theorem rebuilt_spec (node : Node) (id : NodeId) {operands : List Node}
    (halike : List.Forall₂ IsAlike node.operands operands) :
    (node.rebuilt id operands).id = id ∧ (node.rebuilt id operands).operands = operands ∧
      node.IsAlike (node.rebuilt id operands) := by
  cases node with
  | expression tree =>
    cases tree with
    | scalar scalar => cases halike; exact ⟨rfl, rfl, rfl⟩
    | list values =>
      obtain ⟨copies, rfl, hcopies⟩ := isAlike_scalars halike
      simp only [rebuilt, filterMap_scalar?_map]
      refine ⟨rfl, rfl, ?_⟩
      simp only [IsAlike, anonymous, Expression.anonymous, ValueList.anonymous, hcopies]
  | predicate tree =>
    cases tree with
    | comparison _ left operator right =>
      obtain ⟨first, _, hfirst, hrest, rfl⟩ := List.forall₂_cons_left_iff.mp halike
      obtain ⟨second, _, hsecond, ⟨⟩, rfl⟩ := List.forall₂_cons_left_iff.mp hrest
      obtain ⟨newLeft, rfl, hleft⟩ := isAlike_scalar hfirst
      obtain ⟨newRight, rfl, hright⟩ := isAlike_expression hsecond
      refine ⟨rfl, rfl, ?_⟩
      simp only [IsAlike, rebuilt, anonymous, Predicate.anonymous, hleft, hright]
    | junction _ left connective right =>
      obtain ⟨first, _, hfirst, hrest, rfl⟩ := List.forall₂_cons_left_iff.mp halike
      obtain ⟨second, _, hsecond, ⟨⟩, rfl⟩ := List.forall₂_cons_left_iff.mp hrest
      obtain ⟨newLeft, rfl, hleft⟩ := isAlike_predicate hfirst
      obtain ⟨newRight, rfl, hright⟩ := isAlike_predicate hsecond
      refine ⟨rfl, rfl, ?_⟩
      simp only [IsAlike, rebuilt, anonymous, Predicate.anonymous, hleft, hright]
    | negation _ inner =>
      obtain ⟨first, _, hfirst, ⟨⟩, rfl⟩ := List.forall₂_cons_left_iff.mp halike
      obtain ⟨newInner, rfl, hinner⟩ := isAlike_predicate hfirst
      refine ⟨rfl, rfl, ?_⟩
      simp only [IsAlike, rebuilt, anonymous, Predicate.anonymous, hinner]
    | nullness _ operand negated =>
      obtain ⟨first, _, hfirst, ⟨⟩, rfl⟩ := List.forall₂_cons_left_iff.mp halike
      obtain ⟨newOperand, rfl, hoperand⟩ := isAlike_scalar hfirst
      refine ⟨rfl, rfl, ?_⟩
      simp only [IsAlike, rebuilt, anonymous, Predicate.anonymous, hoperand]
    | between _ operand lower upper negated =>
      obtain ⟨first, _, hfirst, hrest, rfl⟩ := List.forall₂_cons_left_iff.mp halike
      obtain ⟨second, _, hsecond, hrest', rfl⟩ := List.forall₂_cons_left_iff.mp hrest
      obtain ⟨third, _, hthird, ⟨⟩, rfl⟩ := List.forall₂_cons_left_iff.mp hrest'
      obtain ⟨newOperand, rfl, hoperand⟩ := isAlike_scalar hfirst
      obtain ⟨newLower, rfl, hlower⟩ := isAlike_scalar hsecond
      obtain ⟨newUpper, rfl, hupper⟩ := isAlike_scalar hthird
      refine ⟨rfl, rfl, ?_⟩
      simp only [IsAlike, rebuilt, anonymous, Predicate.anonymous, hoperand, hlower, hupper]

end Node

/-! ## What is remembered -/

namespace CopyContext

variable {context : CopyContext} {node copy other : Node}

theorem node?_empty (node : Node) : empty.node? node = none := by
  obtain (_ | _) | _ := node <;> simp [empty, node?, expression?, predicate?]

theorem node?_remember_self (halike : node.IsAlike copy) :
    (context.remember node copy).node? node = some copy := by
  obtain ⟨_, _, rfl, rfl⟩ | ⟨_, _, rfl, rfl⟩ | ⟨_, _, rfl, rfl⟩ := halike.cases
  · simp [remember, node?, expression?]
  · simp [remember, node?, expression?]
  · simp [remember, node?, predicate?]

/-- Remembering the copy of a node keeps the copies of nodes with other identities. -/
theorem node?_remember_of_ne (halike : node.IsAlike copy) (hid : node.id ≠ other.id) :
    (context.remember node copy).node? other = context.node? other := by
  obtain ⟨_, _, rfl, rfl⟩ | ⟨_, _, rfl, rfl⟩ | ⟨_, _, rfl, rfl⟩ := halike.cases <;>
    obtain (_ | _) | _ := other <;>
    simp_all [remember, node?, expression?, predicate?, Std.HashMap.getElem?_insert, Node.id,
      Expression.id]

theorem size_remember (halike : node.IsAlike copy) (hnone : context.node? node = none) :
    (context.remember node copy).size = context.size + 1 := by
  obtain ⟨scalar, _, rfl, rfl⟩ | ⟨values, _, rfl, rfl⟩ | ⟨tree, _, rfl, rfl⟩ := halike.cases
  · have habsent : scalar.id ∉ context.scalars := by simpa [node?, expression?] using hnone
    simp only [remember, size, Std.HashMap.size_insert, habsent, if_false]
    omega
  · have habsent : values.id ∉ context.lists := by simpa [node?, expression?] using hnone
    simp only [remember, size, Std.HashMap.size_insert, habsent, if_false]
    omega
  · have habsent : tree.id ∉ context.predicates := by simpa [node?, predicate?] using hnone
    simp only [remember, size, Std.HashMap.size_insert, habsent, if_false]
    omega

end CopyContext

end QueryModel
