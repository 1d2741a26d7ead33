import Std.Data.HashMap
import QueryModel.Query.Node

/-! # Distributing negations

Negations are pushed down a predicate until none is left: junctions are turned around by De
Morgan's law, and leaves take their complement. A subtree that holds no negation and stands under an
even number of them is kept as it is, and a node that stands in several places is treated once for
each parity of the negations above it.
-/

namespace QueryModel

/-- The next identity, and what has become of the nodes met so far, under an even (`false`) or an
odd (`true`) number of negations. -/
structure PushState where
  next : NodeId
  pushed : Std.HashMap (NodeId × Bool) Predicate

/-- A computation that pushes negations down. -/
abbrev Pushing := StateM PushState

namespace Pushing

/-- An identity that no node has. -/
def fresh : Pushing NodeId :=
  modifyGet fun state => (state.next, { state with next := state.next + 1 })

/-- Remember what has become of a node. -/
def remember (id : NodeId) (negated : Bool) (result : Predicate) : Pushing Unit :=
  modify fun state => { state with pushed := state.pushed.insert (id, negated) result }

end Pushing

/-- A predicate, or its negation, without negations. -/
def Predicate.push (predicate : Predicate) (negated : Bool) : Pushing Predicate := do
  match (← get).pushed[(predicate.id, negated)]? with
  | some result => return result
  | none =>
    let result ← match predicate with
      | .comparison _ left operator right =>
        if negated then do
          let id ← Pushing.fresh
          pure (.comparison id left operator.complement right)
        else pure predicate
      | .junction _ left connective right => do
        let newLeft ← left.push negated
        let newRight ← right.push negated
        if !negated && newLeft.id == left.id && newRight.id == right.id then pure predicate
        else
          let id ← Pushing.fresh
          pure (.junction id newLeft (if negated then connective.dual else connective) newRight)
      | .negation _ inner => inner.push (!negated)
      | .nullness _ operand wasNegated =>
        if negated then do
          let id ← Pushing.fresh
          pure (.nullness id operand (!wasNegated))
        else pure predicate
      | .between _ operand lower upper wasNegated =>
        if negated then do
          let id ← Pushing.fresh
          pure (.between id operand lower upper (!wasNegated))
        else pure predicate
    Pushing.remember predicate.id negated result
    return result

/-- The predicate with its negations pushed down to the leaves; the next identity is returned with
it. -/
def Predicate.pushDown (predicate : Predicate) (next : NodeId) : Predicate × NodeId :=
  let (result, state) := predicate.push false ⟨next, ∅⟩
  (result, state.next)

end QueryModel
