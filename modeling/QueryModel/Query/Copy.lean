import Std.Data.HashMap
import QueryModel.Query.Node

/-! # Copies

A copy of a tree is made under a context that remembers, for every node that was copied, its copy.
A node that stands in several places is therefore copied once, and its copy stands in the same
places, also across the trees copied under one context.
-/

namespace QueryModel

/-- The copies made so far, by the identity of the node that was copied. -/
structure CopyContext where
  predicates : Std.HashMap NodeId Predicate
  scalars : Std.HashMap NodeId Scalar
  lists : Std.HashMap NodeId ValueList

namespace CopyContext

/-- The context under which nothing was copied. -/
def empty : CopyContext := ⟨∅, ∅, ∅⟩

/-- The number of nodes copied. -/
def size (context : CopyContext) : Nat :=
  context.predicates.size + (context.scalars.size + context.lists.size)

/-- The copy of a predicate, if there is one. -/
def predicate? (context : CopyContext) (predicate : Predicate) : Option Predicate :=
  context.predicates[predicate.id]?

/-- The copy of an expression, if there is one. -/
def expression? (context : CopyContext) : Expression → Option Expression
  | .scalar node => (context.scalars[node.id]?).map .scalar
  | .list values => (context.lists[values.id]?).map .list

end CopyContext

/-- The next identity, and the copies made so far. -/
structure CopyState where
  next : NodeId
  context : CopyContext

/-- A computation that makes copies. -/
abbrev Copying := StateM CopyState

namespace Copying

/-- An identity that no node has. -/
def fresh : Copying NodeId :=
  modifyGet fun state => (state.next, { state with next := state.next + 1 })

/-- Remember the copy of a predicate. -/
def rememberPredicate (copied : NodeId) (copy : Predicate) : Copying Unit :=
  modify fun state =>
    { state with context :=
      { state.context with predicates := state.context.predicates.insert copied copy } }

/-- Remember the copy of a scalar. -/
def rememberScalar (copied : NodeId) (copy : Scalar) : Copying Unit :=
  modify fun state =>
    { state with context :=
      { state.context with scalars := state.context.scalars.insert copied copy } }

/-- Remember the copy of a list. -/
def rememberList (copied : NodeId) (copy : ValueList) : Copying Unit :=
  modify fun state =>
    { state with context :=
      { state.context with lists := state.context.lists.insert copied copy } }

end Copying

/-- Copy a scalar. -/
def Scalar.copy (scalar : Scalar) : Copying Scalar := do
  match (← get).context.scalars[scalar.id]? with
  | some copy => return copy
  | none =>
    let id ← Copying.fresh
    let copy := { scalar with id := id }
    Copying.rememberScalar scalar.id copy
    return copy

/-- Copy a list and its elements. -/
def ValueList.copy (values : ValueList) : Copying ValueList := do
  match (← get).context.lists[values.id]? with
  | some copy => return copy
  | none =>
    let elements ← values.elements.mapM Scalar.copy
    let id ← Copying.fresh
    let copy := { values with id := id, elements := elements }
    Copying.rememberList values.id copy
    return copy

/-- Copy an expression and everything in it. -/
def Expression.copy : Expression → Copying Expression
  | .scalar node => return .scalar (← node.copy)
  | .list values => return .list (← values.copy)

/-- Copy a predicate and everything below it. -/
def Predicate.copy (predicate : Predicate) : Copying Predicate := do
  match (← get).context.predicates[predicate.id]? with
  | some copy => return copy
  | none =>
    let copy ← match predicate with
      | .comparison _ left operator right => do
        let left ← left.copy
        let right ← right.copy
        let id ← Copying.fresh
        pure (.comparison id left operator right)
      | .junction _ left connective right => do
        let left ← left.copy
        let right ← right.copy
        let id ← Copying.fresh
        pure (.junction id left connective right)
      | .negation _ inner => do
        let inner ← inner.copy
        let id ← Copying.fresh
        pure (.negation id inner)
      | .nullness _ operand negated => do
        let operand ← operand.copy
        let id ← Copying.fresh
        pure (.nullness id operand negated)
      | .between _ operand lower upper negated => do
        let operand ← operand.copy
        let lower ← lower.copy
        let upper ← upper.copy
        let id ← Copying.fresh
        pure (.between id operand lower upper negated)
    Copying.rememberPredicate predicate.id copy
    return copy

/-- Copy a statement, its predicate included. -/
def Statement.copy (statement : Statement) : Copying Statement := do
  match statement.predicate with
  | none => return statement
  | some predicate => return { statement with predicate := some (← predicate.copy) }

end QueryModel
