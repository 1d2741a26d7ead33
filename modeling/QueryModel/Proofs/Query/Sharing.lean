import Mathlib.Data.Set.Card
import QueryModel.Proofs.Query.Copying
import QueryModel.Proofs.Query.Positions

/-! # Copies share as their originals do

Under one context every node is copied once, however often it is met. What every call keeps is that
the nodes copied so far are closed under operands, that the copy of a node stands over the copies of
its operands, and that different nodes have different copies.
-/

namespace QueryModel

namespace CopyState

/-- A copy as it is remembered: it is like its original, stands over the copies of its operands, and
has one of the identities that were given out for copies. -/
structure IsCopy (given : Set NodeId) (state : CopyState) (node copy : Node) : Prop where
  isAlike : node.IsAlike copy
  operands : List.Forall₂ (fun operand duplicate => state.context.node? operand = some duplicate)
    node.operands copy.operands
  id_mem : copy.id ∈ given
  id_lt : copy.id < state.next

/-- The nodes of a store that have been copied are the covered ones. -/
structure Tracks (store : NodeStore) (given : Set NodeId) (covered : Set Node)
    (state : CopyState) : Prop where
  subset : covered ⊆ store.nodes
  finite : covered.Finite
  size_eq : state.context.size = covered.ncard
  known : ∀ {node copy}, state.context.node? node = some copy →
    ∃ original ∈ covered, original.id = node.id
  exists_copy : ∀ {node}, node ∈ covered → ∃ copy, state.context.node? node = some copy
  isCopy : ∀ {node copy}, node ∈ covered → state.context.node? node = some copy →
    state.IsCopy given node copy
  injective : ∀ {left right copy other}, left ∈ covered → right ∈ covered →
    state.context.node? left = some copy → state.context.node? right = some other →
      copy.id = other.id → left = right

/-- What was copied in a state is still copied in a later one. -/
structure Precedes (state later : CopyState) : Prop where
  next_le : state.next ≤ later.next
  keeps : ∀ {node copy}, state.context.node? node = some copy →
    later.context.node? node = some copy

theorem Precedes.refl (state : CopyState) : state.Precedes state := ⟨Nat.le_refl _, id⟩

theorem Precedes.trans {first second third : CopyState} (hfirst : first.Precedes second)
    (hsecond : second.Precedes third) : first.Precedes third :=
  ⟨hfirst.next_le.trans hsecond.next_le, fun hcopy => hsecond.keeps (hfirst.keeps hcopy)⟩

theorem IsCopy.mono {given more : Set NodeId} {state later : CopyState} {node copy : Node}
    (hcopy : state.IsCopy given node copy) (hlater : state.Precedes later)
    (hmore : copy.id ∈ more) : later.IsCopy more node copy where
  isAlike := hcopy.isAlike
  operands := hcopy.operands.imp fun _ _ => hlater.keeps
  id_mem := hmore
  id_lt := Nat.lt_of_lt_of_le hcopy.id_lt hlater.next_le

namespace Tracks

variable {store : NodeStore} {given : Set NodeId} {covered : Set Node} {state : CopyState}

/-- Under the empty context nothing is copied. -/
theorem empty (store : NodeStore) (given : Set NodeId) (next : NodeId) :
    Tracks store given ∅ ⟨next, .empty⟩ where
  subset := Set.empty_subset _
  finite := Set.finite_empty
  size_eq := (Set.ncard_empty Node).symm
  known {node _} hcopy := by cases (CopyContext.node?_empty node).symm.trans hcopy
  exists_copy hnode := hnode.elim
  isCopy hnode := hnode.elim
  injective hnode := hnode.elim

/-- The copies stay what they are while nodes are built and identities given out elsewhere. -/
theorem mono (htracks : Tracks store given covered state) {larger : NodeStore}
    {more : Set NodeId} {later : NodeId} (hle : store ≤ larger) (hlater : state.next ≤ later)
    (hmore : ∀ id ∈ given, id < state.next → id ∈ more) :
    Tracks larger more covered ⟨later, state.context⟩ where
  subset := htracks.subset.trans hle.2
  finite := htracks.finite
  size_eq := htracks.size_eq
  known := htracks.known
  exists_copy := htracks.exists_copy
  isCopy hnode hcopy := by
    have hkept := htracks.isCopy hnode hcopy
    exact hkept.mono ⟨hlater, id⟩ (hmore _ hkept.id_mem hkept.id_lt)
  injective := htracks.injective

/-- A node of the store that has a copy is covered. -/
theorem mem_of_eq_some (htracks : Tracks store given covered state) {node copy : Node}
    (hnode : node ∈ store) (hcopy : state.context.node? node = some copy) : node ∈ covered := by
  obtain ⟨original, horiginal, hid⟩ := htracks.known hcopy
  obtain rfl := store.eq_of_id_eq (htracks.subset horiginal) hnode hid
  exact horiginal

theorem eq_none (htracks : Tracks store given covered state) {node : Node}
    (hnode : node ∈ store) (hnew : node ∉ covered) : state.context.node? node = none := by
  cases hcopy : state.context.node? node with
  | none => rfl
  | some copy => exact (hnew (htracks.mem_of_eq_some hnode hcopy)).elim

/-- At every position below a covered node stands a covered node, and at the same position below its
copy the copy of that node. -/
theorem rel_nodeAt? (htracks : Tracks store given covered state) {node copy : Node}
    (hnode : node ∈ covered) (hcopy : state.context.node? node = some copy) (path : List Nat) :
    Option.Rel (fun below duplicate =>
      below ∈ covered ∧ state.context.node? below = some duplicate)
      (node.nodeAt? path) (copy.nodeAt? path) := by
  induction path generalizing node copy with
  | nil => exact .some ⟨hnode, hcopy⟩
  | cons index path ih =>
    have hoperands := (htracks.isCopy hnode hcopy).operands
    have hlength := hoperands.length_eq
    by_cases hindex : index < node.operands.length
    · have hduplicate := hoperands.get hindex (hlength ▸ hindex)
      have hoperand := store.closed (htracks.subset hnode) (List.get_mem _ ⟨index, hindex⟩)
      simp only [Node.nodeAt?, List.getElem?_eq_getElem hindex,
        List.getElem?_eq_getElem (hlength ▸ hindex), Option.bind_some]
      exact ih (htracks.mem_of_eq_some hoperand hduplicate) hduplicate
    · have hindex' : ¬ index < copy.operands.length := hlength ▸ hindex
      simp only [Node.nodeAt?, List.getElem?_eq_none (Nat.le_of_not_lt hindex),
        List.getElem?_eq_none (Nat.le_of_not_lt hindex'), Option.bind_none]
      exact .none

/-- What is below a covered node is covered. -/
theorem subnodes_subset (htracks : Tracks store given covered state) {node : Node}
    (hnode : node ∈ covered) : node.subnodes ⊆ covered := by
  rintro below ⟨path, hpath⟩
  obtain ⟨copy, hcopy⟩ := htracks.exists_copy hnode
  have hrel := htracks.rel_nodeAt? hnode hcopy path
  rw [hpath] at hrel
  generalize copy.nodeAt? path = duplicate at hrel
  cases hrel with
  | some hbelow => exact hbelow.1

/-! ## One more copy -/

/-- The copies of nodes of the store are like the nodes. -/
theorem forall₂_isAlike (htracks : Tracks store given covered state) {nodes copies : List Node}
    (hnodes : ∀ node ∈ nodes, node ∈ store)
    (hcopies : List.Forall₂ (fun node copy => state.context.node? node = some copy)
      nodes copies) : List.Forall₂ Node.IsAlike nodes copies := by
  have hboth := (List.forall₂_and_left nodes copies).mpr ⟨hnodes, hcopies⟩
  refine hboth.imp fun node copy ⟨hnode, hcopy⟩ => ?_
  exact (htracks.isCopy (htracks.mem_of_eq_some hnode hcopy) hcopy).isAlike

/-- Once the operands of a node are copied, the node can be copied. -/
theorem insert (htracks : Tracks store given covered state) {node : Node} {copies : List Node}
    (hnode : node ∈ store) (hnew : node ∉ covered) (hgiven : state.next ∈ given)
    (hcopies : List.Forall₂ (fun operand copy => state.context.node? operand = some copy)
      node.operands copies) :
    let made := node.rebuilt state.next copies
    let later : CopyState := ⟨state.next + 1, state.context.remember node made⟩
    Tracks store given (Insert.insert node covered) later ∧ state.Precedes later ∧
      later.context.node? node = some made := by
  intro made later
  have hlike := htracks.forall₂_isAlike (store.operand_mem hnode) hcopies
  obtain ⟨hid, hoperands, halike⟩ := node.rebuilt_spec state.next hlike
  have hnone := htracks.eq_none hnode hnew
  have hself : later.context.node? node = some made := CopyContext.node?_remember_self halike
  have hother {other : Node} (hne : node.id ≠ other.id) :
      later.context.node? other = state.context.node? other :=
    CopyContext.node?_remember_of_ne halike hne
  have hcovered {other : Node} (hother : other ∈ covered) : node.id ≠ other.id := by
    intro hsame
    obtain rfl := store.eq_of_id_eq hnode (htracks.subset hother) hsame
    exact hnew hother
  have hlater : state.Precedes later := by
    refine ⟨Nat.le_succ _, fun {other copy} hcopy => ?_⟩
    obtain ⟨original, horiginal, hsame⟩ := htracks.known hcopy
    rw [hother (hsame ▸ hcovered horiginal), hcopy]
  refine ⟨?_, hlater, hself⟩
  exact
    { subset := Set.insert_subset hnode htracks.subset
      finite := htracks.finite.insert node
      size_eq := by
        rw [Set.ncard_insert_of_notMem hnew htracks.finite, ← htracks.size_eq]
        exact CopyContext.size_remember halike hnone
      known := by
        intro other copy hcopy
        by_cases hsame : node.id = other.id
        · exact ⟨node, Set.mem_insert _ _, hsame⟩
        · rw [hother hsame] at hcopy
          obtain ⟨original, horiginal, hid⟩ := htracks.known hcopy
          exact ⟨original, Set.mem_insert_of_mem _ horiginal, hid⟩
      exists_copy := by
        rintro other (rfl | hmem)
        · exact ⟨made, hself⟩
        · obtain ⟨copy, hcopy⟩ := htracks.exists_copy hmem
          exact ⟨copy, hlater.keeps hcopy⟩
      isCopy := by
        rintro other copy (rfl | hmem) hcopy
        · obtain rfl := Option.some.inj (hself.symm.trans hcopy)
          refine ⟨halike, ?_, ?_, ?_⟩
          · rw [hoperands]
            exact hcopies.imp fun _ _ => hlater.keeps
          · rwa [hid]
          · rw [hid]
            exact Nat.lt_succ_self _
        · rw [hother (hcovered hmem)] at hcopy
          have hkept := htracks.isCopy hmem hcopy
          exact hkept.mono hlater hkept.id_mem
      injective := by
        -- The new copy has an identity that no earlier one has.
        have hfresh {other copy : Node} (hmem : other ∈ covered)
            (hcopy : later.context.node? other = some copy) : copy.id ≠ state.next := by
          rw [hother (hcovered hmem)] at hcopy
          exact Nat.ne_of_lt (htracks.isCopy hmem hcopy).id_lt
        rintro left right copy other (rfl | hleft) (rfl | hright) hcopy hcopy' hsame
        · rfl
        · obtain rfl := Option.some.inj (hself.symm.trans hcopy)
          exact (hfresh hright hcopy' (hsame.symm.trans hid)).elim
        · obtain rfl := Option.some.inj (hself.symm.trans hcopy')
          exact (hfresh hleft hcopy (hsame.trans hid)).elim
        · rw [hother (hcovered hleft)] at hcopy
          rw [hother (hcovered hright)] at hcopy'
          exact htracks.injective hleft hright hcopy hcopy' hsame }

end Tracks

/-- Copying a node of the store: the node and everything below it is then covered, and what was
copied before is kept. -/
structure Copies (store : NodeStore) (given : Set NodeId) (covered : Set Node) (state : CopyState)
    (node : Node) : Prop where
  tracks : Tracks store given (covered ∪ node.subnodes) (node.copy state).2
  precedes : state.Precedes (node.copy state).2
  node?_eq : (node.copy state).2.context.node? node = some (node.copy state).1

variable {store : NodeStore} {given : Set NodeId}

/-- Copying nodes one after the other. -/
theorem Tracks.mapM_copy {nodes : List Node} {covered : Set Node} {state : CopyState}
    (hcopy : ∀ node ∈ nodes, ∀ {covered state}, Tracks store given covered state →
      (∀ id, state.next ≤ id → id ∈ given) → Copies store given covered state node)
    (htracks : Tracks store given covered state)
    (hgiven : ∀ id, state.next ≤ id → id ∈ given) :
    Tracks store given (covered ∪ ⋃ node ∈ nodes, node.subnodes)
        (nodes.mapM Node.copy state).2 ∧
      state.Precedes (nodes.mapM Node.copy state).2 ∧
      List.Forall₂ (fun node copy => (nodes.mapM Node.copy state).2.context.node? node = some copy)
        nodes (nodes.mapM Node.copy state).1 := by
  induction nodes generalizing covered state with
  | nil =>
    rw [Copying.mapM_nil_apply]
    exact ⟨by simpa using htracks, Precedes.refl state, .nil⟩
  | cons node rest ih =>
    obtain ⟨hnode, hrest⟩ := List.forall_mem_cons.mp hcopy
    have hfirst := hnode htracks hgiven
    obtain ⟨htracks', hprecedes, hcopies⟩ := ih hrest hfirst.tracks
      fun id hid => hgiven id (hfirst.precedes.next_le.trans hid)
    rw [Copying.mapM_cons_apply]
    refine ⟨?_, hfirst.precedes.trans hprecedes, .cons (hprecedes.keeps hfirst.node?_eq) hcopies⟩
    simpa [Set.union_assoc] using htracks'

/-- What is copied under a context that tracks its copies is covered from then on. -/
theorem Tracks.copy {node : Node} {covered : Set Node} {state : CopyState} (hnode : node ∈ store)
    (htracks : Tracks store given covered state)
    (hgiven : ∀ id, state.next ≤ id → id ∈ given) : Copies store given covered state node := by
  induction node using Node.induction_on_operands generalizing covered state with
  | hstep node ih =>
    cases hknown : state.context.node? node with
    | some known =>
      have hcovered := htracks.mem_of_eq_some hnode hknown
      have hcopy : node.copy state = (known, state) := by rw [Node.copy_eq, hknown]
      constructor <;> rw [hcopy]
      · rwa [Set.union_eq_self_of_subset_right (htracks.subnodes_subset hcovered)]
      · exact Precedes.refl state
      · exact hknown
    | none =>
      obtain ⟨htracks', hprecedes, hcopies⟩ := Tracks.mapM_copy
        (fun operand hoperand _ _ htracks hgiven =>
          ih operand hoperand (store.closed hnode hoperand) htracks hgiven) htracks hgiven
      have hnew : node ∉ covered ∪ ⋃ operand ∈ node.operands, operand.subnodes := by
        rintro (hmem | hmem)
        · obtain ⟨copy, hcopy⟩ := htracks.exists_copy hmem
          rw [hknown] at hcopy
          cases hcopy
        · exact node.notMem_subnodes_operands hmem
      obtain ⟨hinsert, hlater, hself⟩ := htracks'.insert hnode hnew
        (hgiven _ hprecedes.next_le) hcopies
      constructor <;> rw [Node.copy_eq, hknown]
      · rw [Node.subnodes_eq, Set.union_insert]
        exact hinsert
      · exact hprecedes.trans hlater
      · exact hself

end CopyState

end QueryModel
