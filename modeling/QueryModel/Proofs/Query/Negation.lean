import Mathlib.Logic.Basic
import QueryModel.Proofs.Query.Memo
import QueryModel.Query.Negation

/-! # What distributing negations yields

The predicates that may come of pushing negations down, described without the memory that the
computation keeps: two runs differ in the identities of the nodes that they make only. Main
statement: what is pushed down in a store is such a predicate, in a larger store.
-/

namespace QueryModel

/-- `Pushed predicate negated result`: the result is the predicate, or its negation, with the
negations pushed down. -/
inductive Pushed : Predicate → Bool → Predicate → Prop
  | keepComparison (id : NodeId) (left : Scalar) (operator : Operator) (right : Expression) :
      Pushed (.comparison id left operator right) false (.comparison id left operator right)
  | turnComparison (id fresh : NodeId) (left : Scalar) (operator : Operator) (right : Expression) :
      Pushed (.comparison id left operator right) true
        (.comparison fresh left operator.complement right)
  | keepJunction (id : NodeId) {left right : Predicate} (connective : Connective)
      (hleft : Pushed left false left) (hright : Pushed right false right) :
      Pushed (.junction id left connective right) false (.junction id left connective right)
  | newJunction (id fresh : NodeId) {left right newLeft newRight : Predicate} {negated : Bool}
      (connective : Connective) (hleft : Pushed left negated newLeft)
      (hright : Pushed right negated newRight)
      (hnew : negated = true ∨ newLeft ≠ left ∨ newRight ≠ right) :
      Pushed (.junction id left connective right) negated
        (.junction fresh newLeft (if negated then connective.dual else connective) newRight)
  | negation (id : NodeId) {inner result : Predicate} {negated : Bool}
      (hinner : Pushed inner (!negated) result) : Pushed (.negation id inner) negated result
  | keepNullness (id : NodeId) (operand : Scalar) (wasNegated : Bool) :
      Pushed (.nullness id operand wasNegated) false (.nullness id operand wasNegated)
  | turnNullness (id fresh : NodeId) (operand : Scalar) (wasNegated : Bool) :
      Pushed (.nullness id operand wasNegated) true (.nullness fresh operand (!wasNegated))
  | keepBetween (id : NodeId) (operand lower upper : Scalar) (wasNegated : Bool) :
      Pushed (.between id operand lower upper wasNegated) false
        (.between id operand lower upper wasNegated)
  | turnBetween (id fresh : NodeId) (operand lower upper : Scalar) (wasNegated : Bool) :
      Pushed (.between id operand lower upper wasNegated) true
        (.between fresh operand lower upper (!wasNegated))

namespace PushState

/-- What is remembered in a state is about nodes of a store, and is right. -/
structure Fits (store : NodeStore) (state : PushState) : Prop where
  next_eq : state.next = store.next
  pushed : store.Recalls Node.predicate
    (fun key original result => original.id = key.1 ∧ Pushed original key.2 result) state.pushed

/-- What is remembered of a node of the store is what becomes of that very node. -/
theorem Fits.pushed_of_mem {store : NodeStore} {state : PushState} (hfits : Fits store state)
    {predicate result : Predicate} {negated : Bool} (hpredicate : Node.predicate predicate ∈ store)
    (hresult : state.pushed[(predicate.id, negated)]? = some result) :
    Node.predicate result ∈ store ∧ Pushed predicate negated result := by
  obtain ⟨hmem, -, hpushed⟩ := hfits.pushed.becomes_of_mem Node.predicate_injective
    hpredicate hresult fun hbecomes => hbecomes.1
  exact ⟨hmem, hpushed⟩

theorem Fits.mono {store larger : NodeStore} {state : PushState} (hfits : Fits store state)
    (hle : store ≤ larger) (hnext : larger.next = store.next) : Fits larger state where
  next_eq := hfits.next_eq.trans hnext.symm
  pushed := hfits.pushed.mono hle

end PushState

namespace Pushing

open PushState (Fits)

variable {store : NodeStore}

theorem extendsBy_fresh :
    ExtendsBy Fits fresh store fun id larger => larger.IsUnused id := by
  intro state hfits
  refine ⟨store.elapse (Nat.le_succ _), store.le_elapse _, ?_, ?_⟩
  · exact
      { next_eq := congrArg Nat.succ hfits.next_eq
        pushed := hfits.pushed }
  · rw [show (fresh state).1 = store.next from hfits.next_eq]
    exact store.isUnused_elapse

/-- What has become of a predicate is looked up, and worked out if it is not found. -/
theorem extendsBy_lookup {predicate : Predicate} {negated : Bool} {work : Pushing Predicate}
    (hpredicate : Node.predicate predicate ∈ store)
    (hwork : ExtendsBy Fits work store fun result larger =>
      Node.predicate result ∈ larger ∧ Pushed predicate negated result) :
    ExtendsBy Fits
      (do
        match (← get).pushed[(predicate.id, negated)]? with
        | some result => return result
        | none => work)
      store fun result larger =>
        Node.predicate result ∈ larger ∧ Pushed predicate negated result := by
  refine ExtendsBy.get_bind fun state hfits => ?_
  split
  · next result hresult => exact ExtendsBy.pure (hfits.pushed_of_mem hpredicate hresult)
  · exact hwork

/-- What becomes of a predicate is remembered and returned. -/
theorem extendsBy_remember {predicate result : Predicate} {negated : Bool}
    (hpredicate : Node.predicate predicate ∈ store) (hresult : Node.predicate result ∈ store)
    (hpushed : Pushed predicate negated result) :
    ExtendsBy Fits (remember predicate.id negated result >>= fun _ => pure result) store
      fun result larger => Node.predicate result ∈ larger ∧ Pushed predicate negated result := by
  refine (ExtendsBy.modify fun _ hfits => ?_).bind fun _ larger hle _ => ?_
  · exact
      { next_eq := hfits.next_eq
        pushed := hfits.pushed.insert hpredicate hresult ⟨rfl, hpushed⟩ }
  · exact ExtendsBy.pure ⟨NodeStore.mem_of_le hle hresult, hpushed⟩

/-- What becomes of a predicate is a new node over nodes of the store. -/
theorem extendsBy_fresh_remember {predicate : Predicate} {negated : Bool}
    (result : NodeId → Predicate) (hid : ∀ id, (result id).id = id)
    (hpredicate : Node.predicate predicate ∈ store)
    (hoperands : ∀ id, ∀ operand ∈ (Node.predicate (result id)).operands, operand ∈ store)
    (hshaped : ∀ id, (Node.predicate (result id)).IsShaped)
    (hpushed : ∀ id, Pushed predicate negated (result id)) :
    ExtendsBy Fits
      (fresh >>= fun id => remember predicate.id negated (result id) >>= fun _ => pure (result id))
      store fun result larger =>
        Node.predicate result ∈ larger ∧ Pushed predicate negated result := by
  refine ExtendsBy.fresh_node_bind (fun hfits => hfits.mono) extendsBy_fresh
    (fun id => .predicate (result id)) hid hoperands hshaped fun id larger hle hresult => ?_
  exact extendsBy_remember (NodeStore.mem_of_le hle hpredicate) hresult (hpushed id)

/-- A predicate without predicates in it is kept under an even number of negations, and is turned
into a new node over its operands under an odd one. -/
theorem extendsBy_leaf {predicate : Predicate} (turned : NodeId → Predicate) (negated : Bool)
    (hpredicate : Node.predicate predicate ∈ store) (hid : ∀ id, (turned id).id = id)
    (hoperands : ∀ id, (Node.predicate (turned id)).operands = (Node.predicate predicate).operands)
    (hshaped : ∀ id, (Node.predicate (turned id)).IsShaped)
    (hkept : Pushed predicate false predicate) (hturned : ∀ id, Pushed predicate true (turned id)) :
    ExtendsBy Fits
      (do
        let result ← if negated then do
            let id ← fresh
            pure (turned id)
          else pure predicate
        remember predicate.id negated result
        return result)
      store fun result larger =>
        Node.predicate result ∈ larger ∧ Pushed predicate negated result := by
  cases negated with
  | false => exact extendsBy_remember hpredicate hpredicate hkept
  | true =>
    refine extendsBy_fresh_remember turned hid hpredicate (fun id operand hoperand => ?_) hshaped
      hturned
    rw [hoperands] at hoperand
    exact store.operand_mem hpredicate operand hoperand

end Pushing

namespace Predicate

open Pushing PushState

/-- Pushing negations down a predicate of a store keeps its memory right and gives a predicate of a
larger store. -/
theorem extendsBy_push {store : NodeStore} {predicate : Predicate} (negated : Bool)
    (hpredicate : Node.predicate predicate ∈ store) :
    ExtendsBy Fits (predicate.push negated) store fun result larger =>
      Node.predicate result ∈ larger ∧ Pushed predicate negated result := by
  induction predicate generalizing negated store with
  | comparison id left operator right =>
    rw [push]
    refine extendsBy_lookup hpredicate ?_
    refine extendsBy_leaf (fun fresh => .comparison fresh left operator.complement right) negated
      hpredicate (fun _ => rfl) (fun _ => rfl) (fun _ => ?_) (.keepComparison ..)
      fun fresh => .turnComparison ..
    simpa [Node.IsShaped] using store.isShaped hpredicate
  | junction id left connective right ihleft ihright =>
    rw [push]
    refine extendsBy_lookup hpredicate ?_
    have hoperands := store.mem_of_junction hpredicate
    refine (ihleft negated hoperands.1).bind fun newLeft larger hle hnewLeft => ?_
    refine (ihright negated (NodeStore.mem_of_le hle hoperands.2)).bind
      fun newRight largest hle' hnewRight => ?_
    have hmem := NodeStore.mem_of_le (hle.trans hle') hpredicate
    split
    · next hsame =>
      simp only [Bool.and_eq_true, Bool.not_eq_true', beq_iff_eq] at hsame
      obtain ⟨⟨rfl, hleftId⟩, hrightId⟩ := hsame
      obtain rfl := largest.predicate_eq_of_id_eq (NodeStore.mem_of_le hle' hnewLeft.1)
        (NodeStore.mem_of_le (hle.trans hle') hoperands.1) hleftId
      obtain rfl := largest.predicate_eq_of_id_eq hnewRight.1
        (NodeStore.mem_of_le (hle.trans hle') hoperands.2) hrightId
      exact extendsBy_remember hmem hmem (.keepJunction id connective hnewLeft.2 hnewRight.2)
    · next hnew =>
      refine extendsBy_fresh_remember
        (fun fresh =>
          .junction fresh newLeft (if negated then connective.dual else connective) newRight)
        (fun _ => rfl) hmem (fun _ => ?_) (fun _ => trivial) fun fresh => ?_
      · exact Node.forall_operands_junction.mpr
          ⟨NodeStore.mem_of_le hle' hnewLeft.1, hnewRight.1⟩
      · refine .newJunction id fresh connective hnewLeft.2 hnewRight.2 ?_
        cases negated with
        | true => exact Or.inl rfl
        | false =>
          right
          by_contra hsame
          obtain ⟨rfl, rfl⟩ := not_or.mp hsame |>.imp not_not.mp not_not.mp
          simp at hnew
  | negation id inner ih =>
    rw [push]
    refine extendsBy_lookup hpredicate ?_
    have hinner := store.mem_of_negation hpredicate
    refine (ih (!negated) hinner).bind fun result larger hle hresult => ?_
    exact extendsBy_remember (NodeStore.mem_of_le hle hpredicate) hresult.1
      (.negation id hresult.2)
  | nullness id operand wasNegated =>
    rw [push]
    refine extendsBy_lookup hpredicate ?_
    exact extendsBy_leaf (fun fresh => .nullness fresh operand (!wasNegated)) negated hpredicate
      (fun _ => rfl) (fun _ => rfl) (fun _ => trivial) (.keepNullness ..)
      fun fresh => .turnNullness ..
  | between id operand lower upper wasNegated =>
    rw [push]
    refine extendsBy_lookup hpredicate ?_
    exact extendsBy_leaf (fun fresh => .between fresh operand lower upper (!wasNegated)) negated
      hpredicate (fun _ => rfl) (fun _ => rfl) (fun _ => trivial) (.keepBetween ..)
      fun fresh => .turnBetween ..

/-- The predicate with its negations pushed down stands in a larger store. -/
theorem exists_store_pushDown (store : NodeStore) {predicate : Predicate}
    (hpredicate : Node.predicate predicate ∈ store) :
    ∃ larger, store ≤ larger ∧ larger.next = (predicate.pushDown store.next).2 ∧
      Node.predicate (predicate.pushDown store.next).1 ∈ larger ∧
      Pushed predicate false (predicate.pushDown store.next).1 := by
  have hfits : Fits store ⟨store.next, ∅⟩ :=
    { next_eq := rfl
      pushed := NodeStore.Recalls.empty }
  obtain ⟨larger, hle, hfits', hmem, hpushed⟩ := extendsBy_push false hpredicate _ hfits
  exact ⟨larger, hle, hfits'.next_eq.symm, hmem, hpushed⟩

end Predicate

end QueryModel
