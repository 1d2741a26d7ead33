import Mathlib.Data.Finset.Prod
import Mathlib.Data.Fintype.Card
import QueryModel.Proofs.Query.PushMemory
import QueryModel.Proofs.Session.Reachable

/-! # Negation normal form

Pushing its negations down brings a predicate into a form without negations in which as much is
shared as before. What becomes of a node depends on the node and on the parity of the negations
above it only, and what holds no negation and stands under an even number of them stays the node
that it is. Main statement: all of this holds of every predicate that was built in a session.
-/

namespace QueryModel

namespace Predicate

/-- Whether there is a negation in a predicate. -/
def hasNegation : Predicate → Bool
  | .comparison _ _ _ _ => false
  | .junction _ left _ right => left.hasNegation || right.hasNegation
  | .negation _ _ => true
  | .nullness _ _ _ => false
  | .between _ _ _ _ _ => false

/-- `root.Finds path negated node`: the way down from the root, on which the steps into negations
are not counted, leads to the node, under an even (`false`) or an odd (`true`) number of negations.
-/
inductive Finds : Predicate → List Nat → Bool → Predicate → Prop
  | here (node : Predicate) : Finds node [] false node
  | left (id : NodeId) {left node : Predicate} (connective : Connective) (right : Predicate)
      {path : List Nat} {negated : Bool} (hleft : Finds left path negated node) :
      Finds (.junction id left connective right) (0 :: path) negated node
  | right (id : NodeId) (left : Predicate) (connective : Connective) {right node : Predicate}
      {path : List Nat} {negated : Bool} (hright : Finds right path negated node) :
      Finds (.junction id left connective right) (1 :: path) negated node
  | inner (id : NodeId) {inner node : Predicate} {path : List Nat} {negated : Bool}
      (hinner : Finds inner path negated node) : Finds (.negation id inner) path (!negated) node

/-- The result is the negation normal form of the root, and shares what the root shares. -/
structure IsNormalForm (root result : Predicate) (next : NodeId) : Prop where
  hasNegation_eq : result.hasNegation = false
  leaves_eq : result.leaves = root.leaves
  /-- A node that is found twice under one parity of negations has become one node. -/
  one_result : ∀ {path otherPath negated node other}, root.Finds path negated node →
    root.Finds otherPath negated other → node.id = other.id →
      ∃ made, (Node.predicate result).nodeAt? path = some made ∧
        (Node.predicate result).nodeAt? otherPath = some made
  /-- What needs no change is kept. -/
  kept : ∀ {path node}, root.Finds path false node → node.hasNegation = false →
    (Node.predicate result).nodeAt? path = some (.predicate node)
  card_ids_le : result.ids.card ≤ 2 * root.ids.card
  same_iff : result.id = root.id ↔ root.hasNegation = false
  /-- Pushing the negations down once more gives the same node. -/
  again : ∀ later, next ≤ later → (result.pushDown later).1 = result

end Predicate

/-! ## What becomes of a predicate -/

namespace Pushed

variable {predicate result : Predicate} {negated : Bool}

theorem hasNegation_eq (hpushed : Pushed predicate negated result) :
    result.hasNegation = false := by
  induction hpushed with
  | keepJunction id connective hleft hright ihleft ihright =>
    rw [Predicate.hasNegation, ihleft, ihright, Bool.or_false]
  | newJunction id fresh connective hleft hright hnew ihleft ihright =>
    rw [Predicate.hasNegation, ihleft, ihright, Bool.or_false]
  | negation id hinner ih => exact ih
  | _ => rfl

theorem leaves_eq (hpushed : Pushed predicate negated result) :
    result.leaves = predicate.leaves := by
  induction hpushed with
  | newJunction id fresh connective hleft hright hnew ihleft ihright =>
    rw [Predicate.leaves, Predicate.leaves, ihleft, ihright]
  | negation id hinner ih => exact ih
  | _ => rfl

/-- What holds no negation and is not negated stays what it is. -/
theorem eq_of_hasNegation_eq_false (hpushed : Pushed predicate negated result)
    (heven : negated = false) (hnone : predicate.hasNegation = false) : result = predicate := by
  induction hpushed with
  | newJunction id fresh connective hleft hright hnew ihleft ihright =>
    rw [Predicate.hasNegation, Bool.or_eq_false_iff] at hnone
    obtain hodd | hleft | hright := hnew
    · cases heven.symm.trans hodd
    · exact (hleft (ihleft heven hnone.1)).elim
    · exact (hright (ihright heven hnone.2)).elim
  | turnComparison | turnNullness | turnBetween => cases heven
  | negation => cases hnone
  | keepComparison | keepJunction | keepNullness | keepBetween => rfl

end Pushed

namespace Predicate

open PushMemory PushState

variable {store larger : NodeStore} {pushed : PushMemory}

theorem Finds.mem {root node : Predicate} {path : List Nat} {negated : Bool}
    (hfinds : root.Finds path negated node) (hroot : Node.predicate root ∈ store) :
    Node.predicate node ∈ store := by
  induction hfinds with
  | here node => exact hroot
  | left id connective right hleft ih => exact ih (store.mem_of_junction hroot).1
  | right id left connective hright ih => exact ih (store.mem_of_junction hroot).2
  | inner id hinner ih => exact ih (store.mem_of_negation hroot)

/-- Where a node is found, what has become of it stands in the result. -/
theorem Finds.exists_made (hconsistent : IsConsistent store pushed)
    {root node result : Predicate} {path : List Nat} {negated : Bool}
    (hfinds : root.Finds path negated node) {flipped : Bool}
    (hroot : Node.predicate root ∈ store) (hresult : pushed[(root.id, flipped)]? = some result) :
    ∃ made, pushed[(node.id, negated != flipped)]? = some made ∧
      (Node.predicate result).nodeAt? path = some (.predicate made) := by
  induction hfinds generalizing flipped result with
  | here node => exact ⟨result, by rwa [Bool.false_bne], rfl⟩
  | left id connective right hleft ih =>
    obtain ⟨newLeft, newRight, hnewLeft, -, fresh, kind, rfl⟩ := hconsistent _ _ _ hroot hresult
    exact ih (store.mem_of_junction hroot).1 hnewLeft
  | right id left connective hright ih =>
    obtain ⟨newLeft, newRight, -, hnewRight, fresh, kind, rfl⟩ := hconsistent _ _ _ hroot hresult
    exact ih (store.mem_of_junction hroot).2 hnewRight
  | inner id hinner ih =>
    obtain ⟨made, hmade, hat⟩ := ih (store.mem_of_negation hroot) (hconsistent _ _ _ hroot hresult)
    exact ⟨made, by rwa [Bool.not_bne, ← Bool.bne_not], hat⟩

/-- Every predicate in what has become of a predicate is what has become of a predicate in it. -/
theorem exists_key_of_mem_ids {state : PushState} (hconsistent : IsConsistent store state.pushed)
    (hfits : Fits larger state) (hle : store ≤ larger) {root result : Predicate} {negated : Bool}
    (hroot : Node.predicate root ∈ store)
    (hresult : state.pushed[(root.id, negated)]? = some result) {id : NodeId}
    (hid : id ∈ result.ids) :
    ∃ key : NodeId × Bool, ∃ made : Predicate,
      key.1 ∈ root.ids ∧ state.pushed[key]? = some made ∧ made.id = id := by
  have hpushed := (hfits.pushed_of_mem (NodeStore.mem_of_le hle hroot) hresult).2
  induction root generalizing negated result with
  | junction own left connective right ihleft ihright =>
    obtain ⟨newLeft, newRight, hnewLeft, hnewRight, fresh, kind, rfl⟩ :=
      hconsistent _ _ _ hroot hresult
    obtain ⟨hleft, hright⟩ := store.mem_of_junction hroot
    rw [ids, Finset.mem_insert, Finset.mem_union] at hid
    obtain rfl | hid | hid := hid
    · exact ⟨_, _, Finset.mem_insert_self _ _, hresult, rfl⟩
    · obtain ⟨key, made, hkey, hmade⟩ := ihleft hleft hnewLeft hid
        (hfits.pushed_of_mem (NodeStore.mem_of_le hle hleft) hnewLeft).2
      exact ⟨key, made, Finset.mem_insert_of_mem (Finset.mem_union_left _ hkey), hmade⟩
    · obtain ⟨key, made, hkey, hmade⟩ := ihright hright hnewRight hid
        (hfits.pushed_of_mem (NodeStore.mem_of_le hle hright) hnewRight).2
      exact ⟨key, made, Finset.mem_insert_of_mem (Finset.mem_union_right _ hkey), hmade⟩
  | negation own inner ih =>
    have hinner := store.mem_of_negation hroot
    have hsame := hconsistent _ _ _ hroot hresult
    obtain ⟨key, made, hkey, hmade⟩ := ih hinner hsame hid
      (hfits.pushed_of_mem (NodeStore.mem_of_le hle hinner) hsame).2
    exact ⟨key, made, Finset.mem_insert_of_mem hkey, hmade⟩
  | comparison | nullness | between =>
    have hown : id = result.id := by
      cases hpushed <;> exact Finset.mem_singleton.mp hid
    exact ⟨_, result, Finset.mem_singleton_self _, hresult, hown.symm⟩

/-- A predicate becomes one node at most for either parity. -/
theorem card_ids_le {state : PushState} (hconsistent : IsConsistent store state.pushed)
    (hfits : Fits larger state) (hle : store ≤ larger) {root result : Predicate} {negated : Bool}
    (hroot : Node.predicate root ∈ store)
    (hresult : state.pushed[(root.id, negated)]? = some result) :
    result.ids.card ≤ 2 * root.ids.card := by
  let keys : Finset (NodeId × Bool) := root.ids ×ˢ Finset.univ
  let idAt (key : NodeId × Bool) : NodeId := (state.pushed[key]?.map Predicate.id).getD 0
  have hsubset : result.ids ⊆ keys.image idAt := by
    intro id hid
    obtain ⟨key, made, hkey, hmade, rfl⟩ :=
      exists_key_of_mem_ids hconsistent hfits hle hroot hresult hid
    refine Finset.mem_image.mpr ⟨key, Finset.mem_product.mpr ⟨hkey, Finset.mem_univ _⟩, ?_⟩
    simp only [idAt, hmade, Option.map_some, Option.getD_some]
  calc
    result.ids.card ≤ (keys.image idAt).card := Finset.card_le_card hsubset
    _ ≤ keys.card := Finset.card_image_le
    _ = 2 * root.ids.card := by
      rw [Finset.card_product, Finset.card_univ, Fintype.card_bool, mul_comm]

/-- Pushing down the negations of a predicate of a store gives its negation normal form. -/
theorem isNormalForm_of_mem (root : Predicate) (hroot : Node.predicate root ∈ store) :
    root.IsNormalForm (root.pushDown store.next).1 (root.pushDown store.next).2 := by
  have hstart : Fits store ⟨store.next, ∅⟩ :=
    { next_eq := rfl
      pushed := NodeStore.Recalls.empty }
  have hempty : IsConsistent store (∅ : PushMemory) := by
    intro _ _ _ _ hresult
    simp at hresult
  obtain ⟨larger, hle, hfits, hmem, hpushed⟩ := extendsBy_push false hroot _ hstart
  obtain ⟨hgains, hresult⟩ := gains_push false hroot (le_refl store) hstart hempty
  cases hrun : root.push false ⟨store.next, ∅⟩ with | _ result state
  have hpushDown : root.pushDown store.next = (result, state.next) := by rw [pushDown, hrun]
  rw [hrun] at hfits hmem hpushed hgains hresult
  rw [hpushDown]
  have hconsistent := hgains.isConsistent
  exact
    { hasNegation_eq := hpushed.hasNegation_eq
      leaves_eq := hpushed.leaves_eq
      one_result := by
        intro path otherPath negated node other hfinds hother hid
        obtain ⟨made, hmade, hat⟩ := hfinds.exists_made hconsistent hroot hresult
        obtain ⟨otherMade, hotherMade, hotherAt⟩ := hother.exists_made hconsistent hroot hresult
        rw [hid, hotherMade] at hmade
        obtain rfl := Option.some.inj hmade
        exact ⟨_, hat, hotherAt⟩
      kept := by
        intro path node hfinds hnone
        obtain ⟨made, hmade, hat⟩ := hfinds.exists_made hconsistent hroot hresult
        have hnode := NodeStore.mem_of_le hle (hfinds.mem hroot)
        obtain ⟨-, hmadeOf⟩ := hfits.pushed_of_mem hnode hmade
        rw [hat, hmadeOf.eq_of_hasNegation_eq_false rfl hnone]
      card_ids_le := card_ids_le hconsistent hfits hle hroot hresult
      same_iff := by
        constructor
        · intro hid
          have hsame := larger.predicate_eq_of_id_eq hmem (NodeStore.mem_of_le hle hroot) hid
          rw [← hsame]
          exact hpushed.hasNegation_eq
        · intro hnone
          rw [hpushed.eq_of_hasNegation_eq_false rfl hnone]
      again := by
        intro later hlater
        have hlater : larger.next ≤ later := hfits.next_eq ▸ hlater
        obtain ⟨_, -, -, -, hagain⟩ := exists_store_pushDown (larger.elapse hlater) hmem
        exact hagain.eq_of_hasNegation_eq_false rfl hpushed.hasNegation_eq }

end Predicate

namespace Session

/-- A predicate that was built in a session is brought into negation normal form, and its sharing
is kept, when its negations are pushed down. -/
theorem Reachable.isNormalForm_pushDown {session : Session} (hsession : Reachable session)
    {name : String} {root : Predicate}
    (hname : session.nodes.get? name = some (.predicate root)) :
    root.IsNormalForm (root.pushDown session.next).1 (root.pushDown session.next).2 := by
  obtain ⟨store, hfits⟩ := hsession.exists_store
  rw [hfits.next_eq]
  exact root.isNormalForm_of_mem (hfits.nodes hname)

/-- A comparison that stands under one negation and under two becomes two nodes. -/
theorem isNormalForm_sharedComparison :
    let less : Predicate :=
      .comparison 2 ⟨0, .any, none, .path ⟨"user", "u"⟩ "age"⟩ .lessThan
        (.scalar ⟨1, .bigint, none, .literal (.integer 3)⟩)
    let root : Predicate := .negation 5 (.junction 4 (.negation 3 less) .and less)
    sharedComparison.nodes.get? "root" = some (.predicate root) ∧
      root.IsNormalForm (root.pushDown sharedComparison.next).1
        (root.pushDown sharedComparison.next).2 ∧
      (Node.predicate (root.pushDown sharedComparison.next).1).nodeAt? [0] =
        some (.predicate less) := by
  have hname : sharedComparison.nodes.get? "root" = some (.predicate _) := rfl
  have hnormal := ((Reachable.start _).takeAll _).isNormalForm_pushDown hname
  exact ⟨hname, hnormal, hnormal.kept (.inner 5 (.left 4 .and _ (.inner 3 (.here _)))) rfl⟩

end Session

end QueryModel
