import QueryModel.Planning.Plan
import QueryModel.Proofs.Query.Copy
import QueryModel.Proofs.Query.Sharing

/-! # Copies make a store

The copies of a tree are a store of their own, whatever identities they are given: the identities of
the originals do not matter to it. A tree can therefore be copied at any time and what is done to
the copy does not depend on when.
-/

namespace QueryModel

/-- A node that differs from another one in identities only can be built if the other one can. -/
theorem Node.IsAlike.isShaped {node other : Node} (halike : node.IsAlike other)
    (hshaped : node.IsShaped) : other.IsShaped := by
  rcases node with (scalar | values) | tree
  · obtain ⟨copy, rfl, hcopy⟩ := isAlike_scalar halike
    have hsource : copy.anonymous.source = scalar.anonymous.source := by rw [hcopy]
    intro x hx
    exact hshaped x (hsource.symm.trans hx)
  · obtain ⟨copy, rfl, hcopy⟩ := isAlike_expression halike
    cases copy with
    | scalar copy => cases hcopy
    | list copy =>
      injection hcopy with hcopy
      have helements : copy.elements.map Scalar.anonymous = values.elements.map Scalar.anonymous :=
        congrArg ValueList.elements hcopy
      intro hempty
      rw [hempty] at helements
      exact hshaped (List.map_eq_nil_iff.mp helements.symm)
  · obtain ⟨copy, rfl, hcopy⟩ := isAlike_predicate halike
    cases tree with
    | comparison id left operator right =>
      cases copy with
      | comparison id' left' operator' right' =>
        simp only [Predicate.anonymous, Predicate.comparison.injEq] at hcopy
        obtain ⟨-, -, rfl, hright⟩ := hcopy
        have hlist := congrArg Expression.isList hright
        simp only [Expression.isList_anonymous] at hlist
        exact (hshaped : operator'.isMultiValued = right.isList).trans hlist.symm
      | _ => cases hcopy
    | _ => cases copy <;> first | cases hcopy | trivial

namespace CopyState.Tracks

variable {store : NodeStore} {given : Set NodeId} {covered : Set Node} {state : CopyState}

/-- The copies of the covered nodes, as a store. -/
def copies (htracks : Tracks store given covered state) : NodeStore where
  next := state.next
  nodes := {copy | ∃ node ∈ covered, state.context.node? node = some copy}
  closed := by
    rintro copy operand ⟨node, hnode, hcopy⟩ hoperand
    have hoperands := (htracks.isCopy hnode hcopy).operands
    obtain ⟨index, hindex, rfl⟩ := List.getElem_of_mem hoperand
    have hindex' : index < node.operands.length := hoperands.length_eq ▸ hindex
    have horiginal := store.closed (htracks.subset hnode) (List.getElem_mem hindex')
    have hduplicate := hoperands.get hindex' hindex
    exact ⟨_, htracks.mem_of_eq_some horiginal hduplicate, hduplicate⟩
  id_lt := by
    rintro copy ⟨node, hnode, hcopy⟩
    exact (htracks.isCopy hnode hcopy).id_lt
  eq_of_id_eq := by
    rintro copy other ⟨left, hleft, hcopy⟩ ⟨right, hright, hother⟩ hid
    obtain rfl := htracks.injective hleft hright hcopy hother hid
    exact Option.some.inj (hcopy.symm.trans hother)
  isShaped := by
    rintro copy ⟨node, hnode, hcopy⟩
    exact (htracks.isCopy hnode hcopy).isAlike.isShaped (store.isShaped (htracks.subset hnode))

end CopyState.Tracks

/-- A predicate of a store, copied under a context of its own from any identity on, is in a store
that ends where the copying ends. -/
theorem Predicate.exists_store_copy {store : NodeStore} {predicate : Predicate}
    (hpredicate : Node.predicate predicate ∈ store) (next : NodeId) :
    ∃ copies : NodeStore, copies.next = (predicate.copy ⟨next, .empty⟩).2.next ∧
      Node.predicate (predicate.copy ⟨next, .empty⟩).1 ∈ copies ∧
        (predicate.copy ⟨next, .empty⟩).1.anonymous = predicate.anonymous := by
  have hcopy := CopyState.Tracks.copy hpredicate (CopyState.Tracks.empty store Set.univ next)
    fun id _ => Set.mem_univ id
  have hcovered : Node.predicate predicate ∈ ∅ ∪ (Node.predicate predicate).subnodes :=
    Or.inr (Node.mem_subnodes_self _)
  refine ⟨hcopy.tracks.copies, rfl, ⟨_, hcovered, hcopy.node?_eq⟩, ?_⟩
  exact Node.predicate_injective (hcopy.tracks.isCopy hcovered hcopy.node?_eq).isAlike

/-- Copying never fails, whatever the next identity is. -/
theorem Statement.exists_ofCopying_copy_eq_from {ε : Type} {store : NodeStore}
    {statement : Statement}
    (hstatement : ∀ predicate ∈ statement.predicate, Node.predicate predicate ∈ store)
    (next : NodeId) :
    ∃ copy, ∃ copies : NodeStore,
      (Building.ofCopying statement.copy : Building ε Statement) next = .ok (copy, copies.next) ∧
        (∀ predicate ∈ copy.predicate, Node.predicate predicate ∈ copies) ∧
          copy.anonymous = statement.anonymous := by
  obtain ⟨root, predicate⟩ := statement
  cases predicate with
  | none => exact ⟨⟨root, none⟩, .empty next, rfl, by simp, rfl⟩
  | some predicate =>
    obtain ⟨copies, hnext, hmem, halike⟩ := Predicate.exists_store_copy (hstatement _ rfl) next
    refine ⟨⟨root, some (predicate.copy ⟨next, .empty⟩).1⟩, copies, ?_, ?_, ?_⟩
    · rw [hnext]
      rfl
    · rintro _ ⟨⟩
      exact hmem
    · simp only [anonymous, Option.map_some, halike]

end QueryModel
