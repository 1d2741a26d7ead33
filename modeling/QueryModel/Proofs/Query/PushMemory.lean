import Mathlib.Data.Finset.Basic
import QueryModel.Proofs.Query.Negation
import QueryModel.Proofs.Query.Positions

/-! # What is remembered while negations are pushed down

The memory has an entry for every predicate that was met and the parity of the negations above it.
Its entries agree with each other: what has become of a predicate is made of what has become of the
predicates in it. This is kept by every step because no predicate stands below its own operands, so
that the entry of a predicate is written once.
-/

namespace QueryModel

/-- What has become of predicates, each with the parity of the negations above it. -/
abbrev PushMemory := Std.HashMap (NodeId × Bool) Predicate

namespace Predicate

/-- The identities of the predicates in a predicate. -/
def ids : Predicate → Finset NodeId
  | .comparison id _ _ _ => {id}
  | .junction id left _ right => insert id (left.ids ∪ right.ids)
  | .negation id inner => insert id inner.ids
  | .nullness id _ _ => {id}
  | .between id _ _ _ _ => {id}

theorem exists_of_mem_ids {predicate : Predicate} {id : NodeId} (hid : id ∈ predicate.ids) :
    ∃ below : Predicate, Node.predicate below ∈ (Node.predicate predicate).subnodes ∧
      below.id = id := by
  induction predicate with
  | comparison own left operator right =>
    exact ⟨_, Node.mem_subnodes_self _, (Finset.mem_singleton.mp hid).symm⟩
  | junction own left connective right ihleft ihright =>
    rw [ids, Finset.mem_insert, Finset.mem_union] at hid
    obtain rfl | hid | hid := hid
    · exact ⟨_, Node.mem_subnodes_self _, rfl⟩
    · obtain ⟨below, hbelow, rfl⟩ := ihleft hid
      exact ⟨below, Node.mem_subnodes_of_operand (.head _) hbelow, rfl⟩
    · obtain ⟨below, hbelow, rfl⟩ := ihright hid
      exact ⟨below, Node.mem_subnodes_of_operand (.tail _ (.head _)) hbelow, rfl⟩
  | negation own inner ih =>
    rw [ids, Finset.mem_insert] at hid
    obtain rfl | hid := hid
    · exact ⟨_, Node.mem_subnodes_self _, rfl⟩
    · obtain ⟨below, hbelow, rfl⟩ := ih hid
      exact ⟨below, Node.mem_subnodes_of_operand (.head _) hbelow, rfl⟩
  | nullness own operand negated =>
    exact ⟨_, Node.mem_subnodes_self _, (Finset.mem_singleton.mp hid).symm⟩
  | between own operand lower upper negated =>
    exact ⟨_, Node.mem_subnodes_self _, (Finset.mem_singleton.mp hid).symm⟩

/-- In a store, the identity of a predicate is not among those of its operands. -/
theorem id_notMem_ids {store : NodeStore} {predicate operand : Predicate}
    (hpredicate : Node.predicate predicate ∈ store)
    (hoperand : Node.predicate operand ∈ (Node.predicate predicate).operands) :
    predicate.id ∉ operand.ids := by
  intro hid
  obtain ⟨below, hbelow, hid⟩ := exists_of_mem_ids hid
  have hmem := store.subnodes_subset (store.closed hpredicate hoperand) hbelow
  obtain rfl := store.predicate_eq_of_id_eq hmem hpredicate hid
  exact Node.notMem_subnodes_operands _ (Set.mem_biUnion hoperand hbelow)

/-- A predicate without predicates in it is turned into a new node under an odd number of negations
and kept under an even one. -/
def pushLeaf (predicate : Predicate) (turned : NodeId → Predicate) (negated : Bool)
    (state : PushState) : Predicate × PushState :=
  if negated then (turned state.next, { state with next := state.next + 1 }) else (predicate, state)

/-- What becomes of a predicate that has not been met. -/
def pushAnew (predicate : Predicate) (negated : Bool) (state : PushState) : Predicate × PushState :=
  match predicate with
  | .comparison _ left operator right =>
    pushLeaf predicate (fun id => .comparison id left operator.complement right) negated state
  | .junction _ left connective right =>
    let newLeft := left.push negated state
    let newRight := right.push negated newLeft.2
    if !negated && newLeft.1.id == left.id && newRight.1.id == right.id then
      (predicate, newRight.2)
    else
      (.junction newRight.2.next newLeft.1 (if negated then connective.dual else connective)
          newRight.1,
        { newRight.2 with next := newRight.2.next + 1 })
  | .negation _ inner => inner.push (!negated) state
  | .nullness _ operand wasNegated =>
    pushLeaf predicate (fun id => .nullness id operand (!wasNegated)) negated state
  | .between _ operand lower upper wasNegated =>
    pushLeaf predicate (fun id => .between id operand lower upper (!wasNegated)) negated state

theorem get_bind {α : Type} (rest : PushState → Pushing α) (state : PushState) :
    (MonadState.get >>= rest : Pushing α) state = rest state state := rfl

/-- What pushing negations down a predicate does. -/
theorem push_eq (predicate : Predicate) (negated : Bool) (state : PushState) :
    predicate.push negated state =
      match state.pushed[(predicate.id, negated)]? with
      | some known => (known, state)
      | none =>
        let (result, later) := predicate.pushAnew negated state
        (result, { later with pushed := later.pushed.insert (predicate.id, negated) result }) := by
  rw [push.eq_def, get_bind]
  cases state.pushed[(predicate.id, negated)]? with
  | some known => rfl
  | none =>
    cases predicate with
    | comparison | nullness | between => cases negated <;> rfl
    | negation => rfl
    | junction id left connective right =>
      cases hleft : left.push negated state with | _ newLeft middle
      cases hright : right.push negated middle with | _ newRight later
      simp only [pushAnew, bind, StateT.bind, hleft, hright]
      cases !negated && newLeft.id == left.id && newRight.id == right.id <;> rfl

end Predicate

namespace PushMemory

/-- What has become of a predicate is made of what has become of the predicates in it. -/
def Agrees (pushed : PushMemory) (negated : Bool) (result : Predicate) : Predicate → Prop
  | .junction _ left _ right => ∃ newLeft newRight, pushed[(left.id, negated)]? = some newLeft ∧
      pushed[(right.id, negated)]? = some newRight ∧
      ∃ id connective, result = .junction id newLeft connective newRight
  | .negation _ inner => pushed[(inner.id, !negated)]? = some result
  | .comparison _ _ _ _ => True
  | .nullness _ _ _ => True
  | .between _ _ _ _ _ => True

/-- What a memory holds about the predicates of a store agrees. -/
def IsConsistent (store : NodeStore) (pushed : PushMemory) : Prop :=
  ∀ predicate negated result, Node.predicate predicate ∈ store →
    pushed[(predicate.id, negated)]? = some result → pushed.Agrees negated result predicate

/-- All entries of a memory are kept in a later one. -/
def IsKept (pushed later : PushMemory) : Prop :=
  ∀ (key : NodeId × Bool) (result : Predicate), pushed[key]? = some result →
    later[key]? = some result

theorem Agrees.mono {pushed later : PushMemory} {negated : Bool} {result predicate : Predicate}
    (hagrees : pushed.Agrees negated result predicate) (hkept : pushed.IsKept later) :
    later.Agrees negated result predicate := by
  cases predicate with
  | junction id left connective right =>
    obtain ⟨newLeft, newRight, hleft, hright, hresult⟩ := hagrees
    exact ⟨newLeft, newRight, hkept _ _ hleft, hkept _ _ hright, hresult⟩
  | negation id inner => exact hkept _ _ hagrees
  | comparison | nullness | between => trivial

/-- A consistent memory has gained entries about predicates with some identities. -/
structure Gains (store : NodeStore) (ids : Finset NodeId) (pushed later : PushMemory) : Prop where
  isConsistent : IsConsistent store later
  isKept : pushed.IsKept later
  eq_none : ∀ key : NodeId × Bool, key.1 ∉ ids → pushed[key]? = none → later[key]? = none

namespace Gains

variable {store : NodeStore} {ids more : Finset NodeId} {pushed later last : PushMemory}

theorem refl (hconsistent : IsConsistent store pushed) (ids : Finset NodeId) :
    Gains store ids pushed pushed where
  isConsistent := hconsistent
  isKept _ _ := id
  eq_none _ _ := id

theorem trans (hfirst : Gains store ids pushed later) (hsecond : Gains store more later last) :
    Gains store (ids ∪ more) pushed last where
  isConsistent := hsecond.isConsistent
  isKept key result hresult := hsecond.isKept key result (hfirst.isKept key result hresult)
  eq_none key hkey hnone := by
    rw [Finset.notMem_union] at hkey
    exact hsecond.eq_none key hkey.2 (hfirst.eq_none key hkey.1 hnone)

/-- The entry of a predicate is written after those of the predicates in it. -/
theorem remember (hgains : Gains store ids pushed later) {predicate result : Predicate}
    {negated : Bool} (hpredicate : Node.predicate predicate ∈ store) (hid : predicate.id ∉ ids)
    (hnone : pushed[(predicate.id, negated)]? = none)
    (hagrees : later.Agrees negated result predicate) :
    Gains store (insert predicate.id ids) pushed
      (later.insert (predicate.id, negated) result) := by
  have hnew : later[(predicate.id, negated)]? = none := hgains.eq_none _ hid hnone
  have hkept : later.IsKept (later.insert (predicate.id, negated) result) := by
    intro key held hheld
    rw [Std.HashMap.getElem?_insert, if_neg, hheld]
    intro hkey
    obtain rfl := eq_of_beq hkey
    cases hnew.symm.trans hheld
  refine ⟨?_, fun key held hheld => hkept key held (hgains.isKept key held hheld), ?_⟩
  · intro other parity held hother hheld
    rw [Std.HashMap.getElem?_insert] at hheld
    split at hheld
    · next hkey =>
      obtain ⟨hsame, rfl⟩ := Prod.mk.inj (eq_of_beq hkey)
      obtain rfl := store.predicate_eq_of_id_eq hpredicate hother hsame
      obtain rfl := Option.some.inj hheld
      exact hagrees.mono hkept
    · exact (hgains.isConsistent _ _ _ hother hheld).mono hkept
  · intro key hkey hnone
    rw [Finset.mem_insert, not_or] at hkey
    rw [Std.HashMap.getElem?_insert, if_neg, hgains.eq_none key hkey.2 hnone]
    rintro hsame
    exact hkey.1 (congrArg Prod.fst (eq_of_beq hsame)).symm

end Gains

end PushMemory

open PushMemory PushState

namespace Predicate

variable {store current : NodeStore}

/-- Whether a predicate has been met or not, it has an entry once its negations are pushed down. -/
theorem gains_push_of_pushAnew {predicate : Predicate} {negated : Bool} {state : PushState}
    {ids : Finset NodeId} (hpredicate : Node.predicate predicate ∈ store)
    (hconsistent : IsConsistent store state.pushed) (hid : predicate.id ∉ ids)
    (hids : insert predicate.id ids = predicate.ids)
    (hgains : Gains store ids state.pushed (predicate.pushAnew negated state).2.pushed)
    (hagrees : Agrees (predicate.pushAnew negated state).2.pushed negated
      (predicate.pushAnew negated state).1 predicate) :
    Gains store predicate.ids state.pushed (predicate.push negated state).2.pushed ∧
      (predicate.push negated state).2.pushed[(predicate.id, negated)]? =
        some (predicate.push negated state).1 := by
  rw [push_eq]
  cases hknown : state.pushed[(predicate.id, negated)]? with
  | some known => exact ⟨.refl hconsistent _, hknown⟩
  | none =>
    refine ⟨?_, Std.HashMap.getElem?_insert_self⟩
    rw [← hids]
    exact hgains.remember hpredicate hid hknown hagrees

theorem pushed_pushLeaf (predicate : Predicate) (turned : NodeId → Predicate) (negated : Bool)
    (state : PushState) : (predicate.pushLeaf turned negated state).2.pushed = state.pushed := by
  cases negated <;> rfl

/-- What has become of a predicate of the store is remembered, and what is remembered agrees. -/
theorem gains_push {predicate : Predicate} (negated : Bool) {state : PushState}
    (hpredicate : Node.predicate predicate ∈ store) (hle : store ≤ current)
    (hfits : Fits current state) (hconsistent : IsConsistent store state.pushed) :
    Gains store predicate.ids state.pushed (predicate.push negated state).2.pushed ∧
      (predicate.push negated state).2.pushed[(predicate.id, negated)]? =
        some (predicate.push negated state).1 := by
  induction predicate generalizing negated state current with
  | comparison id left operator right =>
    refine gains_push_of_pushAnew hpredicate hconsistent (Finset.notMem_empty _) rfl ?_ trivial
    rw [pushAnew, pushed_pushLeaf]
    exact .refl hconsistent ∅
  | junction id left connective right ihleft ihright =>
    obtain ⟨hleft, hright⟩ := store.mem_of_junction hpredicate
    obtain ⟨larger, hle', hfits', hmemLeft, -⟩ :=
      extendsBy_push negated (NodeStore.mem_of_le hle hleft) state hfits
    obtain ⟨largest, hle'', -, hmemRight, -⟩ :=
      extendsBy_push negated (NodeStore.mem_of_le (hle.trans hle') hright) _ hfits'
    obtain ⟨hgainsLeft, hnewLeft⟩ := ihleft negated hleft hle hfits hconsistent
    obtain ⟨hgainsRight, hnewRight⟩ :=
      ihright negated hright (hle.trans hle') hfits' hgainsLeft.isConsistent
    have hnewLeft := hgainsRight.isKept _ _ hnewLeft
    have hgains := hgainsLeft.trans hgainsRight
    have hid : id ∉ left.ids ∪ right.ids := by
      rw [Finset.notMem_union]
      exact ⟨id_notMem_ids hpredicate (.head _), id_notMem_ids hpredicate (.tail _ (.head _))⟩
    have hmem {node : Node} (hnode : node ∈ store) : node ∈ largest :=
      NodeStore.mem_of_le (hle.trans (hle'.trans hle'')) hnode
    refine gains_push_of_pushAnew hpredicate hconsistent hid rfl ?_ ?_
    · simp only [pushAnew]
      split <;> exact hgains
    · simp only [pushAnew]
      split
      · next hsame =>
        simp only [Bool.and_eq_true, beq_iff_eq] at hsame
        have hsameLeft := largest.predicate_eq_of_id_eq (NodeStore.mem_of_le hle'' hmemLeft)
          (hmem hleft) hsame.1.2
        have hsameRight := largest.predicate_eq_of_id_eq hmemRight (hmem hright) hsame.2
        exact ⟨_, _, hnewLeft, hnewRight, id, connective, by rw [hsameLeft, hsameRight]⟩
      · exact ⟨_, _, hnewLeft, hnewRight, _, _, rfl⟩
  | negation id inner ih =>
    have hinner := store.mem_of_negation hpredicate
    obtain ⟨hgains, hresult⟩ := ih (!negated) hinner hle hfits hconsistent
    exact gains_push_of_pushAnew hpredicate hconsistent (id_notMem_ids hpredicate (.head _)) rfl
      hgains hresult
  | nullness id operand wasNegated =>
    refine gains_push_of_pushAnew hpredicate hconsistent (Finset.notMem_empty _) rfl ?_ trivial
    rw [pushAnew, pushed_pushLeaf]
    exact .refl hconsistent ∅
  | between id operand lower upper wasNegated =>
    refine gains_push_of_pushAnew hpredicate hconsistent (Finset.notMem_empty _) rfl ?_ trivial
    rw [pushAnew, pushed_pushLeaf]
    exact .refl hconsistent ∅

end Predicate

end QueryModel
