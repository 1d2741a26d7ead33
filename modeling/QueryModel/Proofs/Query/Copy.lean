import QueryModel.Proofs.Query.Anonymous
import QueryModel.Proofs.Query.Memo
import QueryModel.Query.Copy

/-! # What copying yields

A copy differs from its original in the identities of its nodes only. Main statement: a copy made in
a store, under a context that has been used in that store or is new, is such a tree, in a larger
store.
-/

namespace QueryModel

/-- The copies that a context holds are nodes of a store, and each is like a node of the store. -/
structure CopyContext.Fits (store : NodeStore) (context : CopyContext) : Prop where
  predicates : store.Recalls Node.predicate
    (fun id original copy => original.id = id ∧ copy.anonymous = original.anonymous)
    context.predicates
  scalars : store.Recalls (Node.expression ∘ Expression.scalar)
    (fun id original copy => original.id = id ∧ copy.anonymous = original.anonymous)
    context.scalars
  lists : store.Recalls (Node.expression ∘ Expression.list)
    (fun id original copy => original.id = id ∧ copy.anonymous = original.anonymous)
    context.lists

namespace CopyContext

theorem fits_empty (store : NodeStore) : Fits store empty where
  predicates := NodeStore.Recalls.empty
  scalars := NodeStore.Recalls.empty
  lists := NodeStore.Recalls.empty

theorem Fits.mono {store larger : NodeStore} {context : CopyContext} (hfits : Fits store context)
    (hle : store ≤ larger) : Fits larger context where
  predicates := hfits.predicates.mono hle
  scalars := hfits.scalars.mono hle
  lists := hfits.lists.mono hle

end CopyContext

namespace CopyState

/-- A state of a computation that makes copies of nodes of a store. -/
structure Fits (store : NodeStore) (state : CopyState) : Prop where
  next_eq : state.next = store.next
  context : state.context.Fits store

theorem Fits.mono {store larger : NodeStore} {state : CopyState} (hfits : Fits store state)
    (hle : store ≤ larger) (hnext : larger.next = store.next) : Fits larger state where
  next_eq := hfits.next_eq.trans hnext.symm
  context := hfits.context.mono hle

end CopyState

open CopyState (Fits)

namespace Copying

variable {store : NodeStore}

theorem extendsBy_fresh :
    ExtendsBy Fits fresh store fun id larger => larger.IsUnused id := by
  intro state hfits
  refine ⟨store.elapse (Nat.le_succ _), store.le_elapse _, ?_, ?_⟩
  · exact
      { next_eq := congrArg Nat.succ hfits.next_eq
        context := hfits.context.mono (store.le_elapse _) }
  · rw [show (fresh state).1 = store.next from hfits.next_eq]
    exact store.isUnused_elapse

end Copying

/-- Copying a scalar of a store gives a scalar of a larger store that is like it. -/
theorem Scalar.extendsBy_copy {store : NodeStore} {scalar : Scalar}
    (hscalar : Node.expression (.scalar scalar) ∈ store) :
    ExtendsBy Fits scalar.copy store fun copy larger =>
      Node.expression (.scalar copy) ∈ larger ∧ copy.anonymous = scalar.anonymous := by
  unfold copy
  refine ExtendsBy.get_bind fun state hfits => ?_
  split
  · next copy hcopy =>
    obtain ⟨hmem, -, halike⟩ := hfits.context.scalars.becomes_of_mem Node.scalar_injective
      hscalar hcopy fun hbecomes => hbecomes.1
    exact ExtendsBy.pure ⟨hmem, halike⟩
  · refine ExtendsBy.fresh_node_bind (fun hfits => hfits.mono) Copying.extendsBy_fresh
      (fun id => .expression (.scalar { scalar with id := id })) (fun _ => rfl)
      (fun _ => Node.forall_operands_scalar _) (fun _ => (store.isShaped hscalar :))
      fun id larger hle hcopy => ?_
    refine (ExtendsBy.modify fun state hfits => ?_).bind fun _ largest hle' _ => ?_
    · exact
        { next_eq := hfits.next_eq
          context :=
            { hfits.context with
              scalars := hfits.context.scalars.insert (NodeStore.mem_of_le hle hscalar) hcopy
                ⟨rfl, rfl⟩ } }
    · exact ExtendsBy.pure ⟨NodeStore.mem_of_le hle' hcopy, rfl⟩

/-- Copying scalars of a store, one after the other. -/
theorem Scalar.extendsBy_mapM_copy {store : NodeStore} {scalars : List Scalar}
    (hscalars : ∀ scalar ∈ scalars, Node.expression (.scalar scalar) ∈ store) :
    ExtendsBy Fits (scalars.mapM copy) store fun copies larger =>
      (∀ copy ∈ copies, Node.expression (.scalar copy) ∈ larger) ∧
        copies.map anonymous = scalars.map anonymous := by
  induction scalars generalizing store with
  | nil => exact ExtendsBy.pure ⟨by simp, rfl⟩
  | cons scalar rest ih =>
    rw [List.forall_mem_cons] at hscalars
    rw [List.mapM_cons]
    refine (extendsBy_copy hscalars.1).bind fun first larger hle ⟨hfirst, halike⟩ => ?_
    refine (ih fun other hother => NodeStore.mem_of_le hle (hscalars.2 other hother)).bind
      fun copies largest hle' ⟨hcopies, halikes⟩ => ?_
    refine ExtendsBy.pure ⟨?_, by simp [halike, halikes]⟩
    rw [List.forall_mem_cons]
    exact ⟨NodeStore.mem_of_le hle' hfirst, hcopies⟩

/-- Copying a list of a store gives a list of a larger store that is like it. -/
theorem ValueList.extendsBy_copy {store : NodeStore} {values : ValueList}
    (hvalues : Node.expression (.list values) ∈ store) :
    ExtendsBy Fits values.copy store fun copy larger =>
      Node.expression (.list copy) ∈ larger ∧ copy.anonymous = values.anonymous := by
  unfold copy
  refine ExtendsBy.get_bind fun state hfits => ?_
  split
  · next copy hcopy =>
    obtain ⟨hmem, -, halike⟩ := hfits.context.lists.becomes_of_mem Node.list_injective
      hvalues hcopy fun hbecomes => hbecomes.1
    exact ExtendsBy.pure ⟨hmem, halike⟩
  · have helements := store.operand_mem hvalues
    rw [Node.forall_operands_list] at helements
    refine (Scalar.extendsBy_mapM_copy helements).bind
      fun elements larger hle ⟨hcopies, halikes⟩ => ?_
    have hnonempty : elements ≠ [] := by
      rintro rfl
      exact store.isShaped hvalues (List.map_eq_nil_iff.mp halikes.symm)
    refine ExtendsBy.fresh_node_bind (fun hfits => hfits.mono) Copying.extendsBy_fresh
      (fun id => .expression (.list { values with id := id, elements := elements })) (fun _ => rfl)
      (fun _ => Node.forall_operands_list.mpr hcopies) (fun _ => hnonempty)
      fun id largest hle' hcopy => ?_
    have halike : ({ values with id := id, elements := elements } : ValueList).anonymous =
        values.anonymous := by
      simp [anonymous, halikes]
    refine (ExtendsBy.modify fun state hfits => ?_).bind fun _ final hle'' _ => ?_
    · exact
        { next_eq := hfits.next_eq
          context :=
            { hfits.context with
              lists := hfits.context.lists.insert (NodeStore.mem_of_le (hle.trans hle') hvalues)
                hcopy ⟨rfl, halike⟩ } }
    · exact ExtendsBy.pure ⟨NodeStore.mem_of_le hle'' hcopy, halike⟩

/-- Copying an expression of a store gives an expression of a larger store that is like it. -/
theorem Expression.extendsBy_copy {store : NodeStore} {expression : Expression}
    (hexpression : Node.expression expression ∈ store) :
    ExtendsBy Fits expression.copy store fun copy larger =>
      Node.expression copy ∈ larger ∧ copy.anonymous = expression.anonymous := by
  cases expression with
  | scalar node =>
    refine (Scalar.extendsBy_copy hexpression).bind fun copy larger _ ⟨hcopy, halike⟩ => ?_
    exact ExtendsBy.pure ⟨hcopy, congrArg scalar halike⟩
  | list values =>
    refine (ValueList.extendsBy_copy hexpression).bind fun copy larger _ ⟨hcopy, halike⟩ => ?_
    exact ExtendsBy.pure ⟨hcopy, congrArg list halike⟩

namespace Copying

variable {store : NodeStore} {predicate : Predicate}

/-- The copy of a predicate is looked up, and made if it is not found. -/
theorem extendsBy_lookup {work : Copying Predicate}
    (hpredicate : Node.predicate predicate ∈ store)
    (hwork : ExtendsBy Fits work store fun copy larger =>
      Node.predicate copy ∈ larger ∧ copy.anonymous = predicate.anonymous) :
    ExtendsBy Fits
      (do
        match (← get).context.predicates[predicate.id]? with
        | some copy => return copy
        | none => work)
      store fun copy larger =>
        Node.predicate copy ∈ larger ∧ copy.anonymous = predicate.anonymous := by
  refine ExtendsBy.get_bind fun state hfits => ?_
  split
  · next copy hcopy =>
    obtain ⟨hmem, -, halike⟩ := hfits.context.predicates.becomes_of_mem Node.predicate_injective
      hpredicate hcopy fun hbecomes => hbecomes.1
    exact ExtendsBy.pure ⟨hmem, halike⟩
  · exact hwork

/-- The copy of a predicate is a new node over nodes of the store, and is remembered. -/
theorem extendsBy_fresh_remember (copy : NodeId → Predicate) (hid : ∀ id, (copy id).id = id)
    (hpredicate : Node.predicate predicate ∈ store)
    (hoperands : ∀ id, ∀ operand ∈ (Node.predicate (copy id)).operands, operand ∈ store)
    (hshaped : ∀ id, (Node.predicate (copy id)).IsShaped)
    (halike : ∀ id, (copy id).anonymous = predicate.anonymous) :
    ExtendsBy Fits
      (fresh >>= fun id => rememberPredicate predicate.id (copy id) >>= fun _ => pure (copy id))
      store fun copy larger =>
        Node.predicate copy ∈ larger ∧ copy.anonymous = predicate.anonymous := by
  refine ExtendsBy.fresh_node_bind (fun hfits => hfits.mono) extendsBy_fresh
    (fun id => .predicate (copy id)) hid hoperands hshaped fun id larger hle hcopy => ?_
  refine (ExtendsBy.modify fun state hfits => ?_).bind fun _ largest hle' _ => ?_
  · exact
      { next_eq := hfits.next_eq
        context :=
          { hfits.context with
            predicates := hfits.context.predicates.insert (NodeStore.mem_of_le hle hpredicate)
              hcopy ⟨rfl, halike id⟩ } }
  · exact ExtendsBy.pure ⟨NodeStore.mem_of_le hle' hcopy, halike id⟩

end Copying

namespace Predicate

open Copying

/-- Copying a predicate of a store gives a predicate of a larger store that is like it. -/
theorem extendsBy_copy {store : NodeStore} {predicate : Predicate}
    (hpredicate : Node.predicate predicate ∈ store) :
    ExtendsBy Fits predicate.copy store fun copy larger =>
      Node.predicate copy ∈ larger ∧ copy.anonymous = predicate.anonymous := by
  induction predicate generalizing store with
  | comparison id left operator right =>
    rw [copy]
    refine Copying.extendsBy_lookup hpredicate ?_
    have hoperands := store.operand_mem hpredicate
    rw [Node.forall_operands_comparison] at hoperands
    refine (Scalar.extendsBy_copy hoperands.1).bind fun newLeft larger hle hnewLeft => ?_
    refine (Expression.extendsBy_copy (NodeStore.mem_of_le hle hoperands.2)).bind
      fun newRight largest hle' hnewRight => ?_
    refine extendsBy_fresh_remember (fun fresh => .comparison fresh newLeft operator newRight)
      (fun _ => rfl) (NodeStore.mem_of_le (hle.trans hle') hpredicate) (fun _ => ?_) (fun _ => ?_)
      fun _ => by simp [anonymous, hnewLeft.2, hnewRight.2]
    · exact Node.forall_operands_comparison.mpr
        ⟨NodeStore.mem_of_le hle' hnewLeft.1, hnewRight.1⟩
    · have hlist : newRight.isList = right.isList := by
        rw [← Expression.isList_anonymous, hnewRight.2, Expression.isList_anonymous]
      rw [Node.IsShaped, hlist]
      exact store.isShaped hpredicate
  | junction id left connective right ihleft ihright =>
    rw [copy]
    refine Copying.extendsBy_lookup hpredicate ?_
    have hoperands := store.mem_of_junction hpredicate
    refine (ihleft hoperands.1).bind fun newLeft larger hle hnewLeft => ?_
    refine (ihright (NodeStore.mem_of_le hle hoperands.2)).bind
      fun newRight largest hle' hnewRight => ?_
    refine extendsBy_fresh_remember (fun fresh => .junction fresh newLeft connective newRight)
      (fun _ => rfl) (NodeStore.mem_of_le (hle.trans hle') hpredicate) (fun _ => ?_)
      (fun _ => trivial) fun _ => by simp [anonymous, hnewLeft.2, hnewRight.2]
    exact Node.forall_operands_junction.mpr ⟨NodeStore.mem_of_le hle' hnewLeft.1, hnewRight.1⟩
  | negation id inner ih =>
    rw [copy]
    refine Copying.extendsBy_lookup hpredicate ?_
    have hinner := store.mem_of_negation hpredicate
    refine (ih hinner).bind fun newInner larger hle hnewInner => ?_
    exact extendsBy_fresh_remember (fun fresh => .negation fresh newInner) (fun _ => rfl)
      (NodeStore.mem_of_le hle hpredicate)
      (fun _ => Node.forall_operands_negation.mpr hnewInner.1) (fun _ => trivial)
      fun _ => by simp [anonymous, hnewInner.2]
  | nullness id operand negated =>
    rw [copy]
    refine Copying.extendsBy_lookup hpredicate ?_
    have hoperand := store.operand_mem hpredicate
    rw [Node.forall_operands_nullness] at hoperand
    refine (Scalar.extendsBy_copy hoperand).bind fun newOperand larger hle hnewOperand => ?_
    exact extendsBy_fresh_remember (fun fresh => .nullness fresh newOperand negated) (fun _ => rfl)
      (NodeStore.mem_of_le hle hpredicate)
      (fun _ => Node.forall_operands_nullness.mpr hnewOperand.1) (fun _ => trivial)
      fun _ => by simp [anonymous, hnewOperand.2]
  | between id operand lower upper negated =>
    rw [copy]
    refine Copying.extendsBy_lookup hpredicate ?_
    have hoperands := store.operand_mem hpredicate
    rw [Node.forall_operands_between] at hoperands
    refine (Scalar.extendsBy_copy hoperands.1).bind fun newOperand larger hle hnewOperand => ?_
    refine (Scalar.extendsBy_copy (NodeStore.mem_of_le hle hoperands.2.1)).bind
      fun newLower larger' hle' hnewLower => ?_
    refine (Scalar.extendsBy_copy (NodeStore.mem_of_le (hle.trans hle') hoperands.2.2)).bind
      fun newUpper largest hle'' hnewUpper => ?_
    refine extendsBy_fresh_remember
      (fun fresh => .between fresh newOperand newLower newUpper negated) (fun _ => rfl)
      (NodeStore.mem_of_le ((hle.trans hle').trans hle'') hpredicate) (fun _ => ?_)
      (fun _ => trivial) fun _ => by simp [anonymous, hnewOperand.2, hnewLower.2, hnewUpper.2]
    exact Node.forall_operands_between.mpr
      ⟨NodeStore.mem_of_le (hle'.trans hle'') hnewOperand.1, NodeStore.mem_of_le hle'' hnewLower.1,
        hnewUpper.1⟩

end Predicate

/-- The statement without the identities of its nodes. -/
def Statement.anonymous (statement : Statement) : Statement :=
  { statement with predicate := statement.predicate.map Predicate.anonymous }

/-- Copying a statement over a store. -/
theorem Statement.extendsBy_copy {store : NodeStore} {statement : Statement}
    (hstatement : ∀ predicate ∈ statement.predicate, Node.predicate predicate ∈ store) :
    ExtendsBy Fits statement.copy store fun copy larger =>
      (∀ predicate ∈ copy.predicate, Node.predicate predicate ∈ larger) ∧
        copy.anonymous = statement.anonymous := by
  obtain ⟨root, predicate⟩ := statement
  cases predicate with
  | none => exact ExtendsBy.pure ⟨by simp, rfl⟩
  | some predicate =>
    refine (Predicate.extendsBy_copy (hstatement predicate rfl)).bind
      fun copy larger _ ⟨hcopy, halike⟩ => ?_
    refine ExtendsBy.pure ⟨?_, ?_⟩
    · rintro _ ⟨⟩
      exact hcopy
    · simp only [anonymous, Option.map_some, halike]

end QueryModel
