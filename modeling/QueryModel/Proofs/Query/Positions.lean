import Mathlib.Data.Set.Lattice
import QueryModel.Proofs.Query.Store

/-! # Positions in a tree

A position is the way down from the root of a tree, given by the numbers of the operands that are
passed. One node may stand at several positions, and what stands at any of them is a subnode.
-/

namespace QueryModel

namespace Node

/-- An operand is smaller than the node it is an operand of. -/
theorem sizeOf_operand_lt (node : Node) :
    ∀ operand ∈ node.operands, sizeOf operand < sizeOf node := by
  cases node with
  | expression tree =>
    cases tree with
    | scalar scalar => exact forall_operands_scalar scalar
    | list values =>
      refine forall_operands_list.mpr fun element helement => ?_
      have hless := List.sizeOf_lt_of_mem helement
      cases values
      simp at hless ⊢
      omega
  | predicate tree =>
    cases tree with
    | comparison id left operator right =>
      refine forall_operands_comparison.mpr ?_
      cases right <;> simp <;> omega
    | junction => exact forall_operands_junction.mpr (by grind)
    | negation => exact forall_operands_negation.mpr (by grind)
    | nullness id operand negated =>
      exact forall_operands_nullness.mpr (by cases negated <;> grind)
    | between id operand lower upper negated =>
      exact forall_operands_between.mpr (by cases negated <;> grind)

/-- What holds of every node whose operands it holds of holds of all nodes. -/
theorem induction_on_operands {property : Node → Prop}
    (hstep : ∀ node, (∀ operand ∈ node.operands, property operand) → property node)
    (node : Node) : property node :=
  hstep node fun operand _ => induction_on_operands hstep operand
termination_by sizeOf node
decreasing_by exact node.sizeOf_operand_lt operand ‹_›

/-- The node at a position. -/
def nodeAt? (node : Node) : List Nat → Option Node
  | [] => some node
  | index :: path => node.operands[index]?.bind fun operand => operand.nodeAt? path

/-- The nodes at all positions. -/
def subnodes (node : Node) : Set Node := {below | ∃ path, node.nodeAt? path = some below}

theorem mem_subnodes_self (node : Node) : node ∈ node.subnodes := ⟨[], rfl⟩

/-- A subnode is the node itself or a subnode of one of its operands. -/
theorem subnodes_eq (node : Node) :
    node.subnodes = insert node (⋃ operand ∈ node.operands, operand.subnodes) := by
  ext below
  simp only [Set.mem_insert_iff, Set.mem_iUnion, exists_prop]
  constructor
  · rintro ⟨path, hpath⟩
    cases path with
    | nil => exact Or.inl (Option.some.inj hpath).symm
    | cons index path =>
      obtain ⟨operand, hoperand, hbelow⟩ := Option.bind_eq_some_iff.mp hpath
      exact Or.inr ⟨operand, List.mem_of_getElem? hoperand, path, hbelow⟩
  · rintro (rfl | ⟨operand, hoperand, path, hbelow⟩)
    · exact mem_subnodes_self _
    · obtain ⟨index, hindex⟩ := List.getElem?_of_mem hoperand
      exact ⟨index :: path, Option.bind_eq_some_iff.mpr ⟨operand, hindex, hbelow⟩⟩

theorem mem_subnodes_of_operand {node operand below : Node} (hoperand : operand ∈ node.operands)
    (hbelow : below ∈ operand.subnodes) : below ∈ node.subnodes := by
  rw [subnodes_eq]
  exact Or.inr (Set.mem_biUnion hoperand hbelow)

/-- The operands of what is below a node are below it too. -/
theorem operand_mem_subnodes {node below operand : Node} (hbelow : below ∈ node.subnodes)
    (hoperand : operand ∈ below.operands) : operand ∈ node.subnodes := by
  induction node using induction_on_operands with
  | hstep node ih =>
    rw [subnodes_eq, Set.mem_insert_iff, Set.mem_iUnion₂] at hbelow
    obtain rfl | ⟨top, htop, hbelow⟩ := hbelow
    · exact mem_subnodes_of_operand hoperand (mem_subnodes_self _)
    · exact mem_subnodes_of_operand htop (ih top htop hbelow)

/-- A node is no smaller than what is below it. -/
theorem sizeOf_le_of_mem_subnodes {node below : Node} (hbelow : below ∈ node.subnodes) :
    sizeOf below ≤ sizeOf node := by
  induction node using induction_on_operands with
  | hstep node ih =>
    rw [subnodes_eq, Set.mem_insert_iff, Set.mem_iUnion₂] at hbelow
    obtain rfl | ⟨operand, hoperand, hbelow⟩ := hbelow
    · exact Nat.le_refl _
    · exact (ih operand hoperand hbelow).trans (node.sizeOf_operand_lt operand hoperand).le

/-- No node is below its own operands. -/
theorem notMem_subnodes_operands (node : Node) :
    node ∉ ⋃ operand ∈ node.operands, operand.subnodes := by
  rw [Set.mem_iUnion₂]
  rintro ⟨operand, hoperand, hbelow⟩
  exact absurd (sizeOf_le_of_mem_subnodes hbelow)
    (Nat.not_le_of_lt (node.sizeOf_operand_lt operand hoperand))

end Node

theorem NodeStore.subnodes_subset (store : NodeStore) {node : Node} (hnode : node ∈ store) :
    node.subnodes ⊆ store.nodes := by
  induction node using Node.induction_on_operands with
  | hstep node ih =>
    rw [Node.subnodes_eq, Set.insert_subset_iff, Set.iUnion₂_subset_iff]
    exact ⟨hnode, fun operand hoperand => ih operand hoperand (store.closed hnode hoperand)⟩

/-- What is below a node of a store, as a store that ends behind the identities there. -/
def NodeStore.below (store : NodeStore) {node : Node} (hnode : node ∈ store) (next : NodeId)
    (hnext : ∀ below ∈ node.subnodes, below.id < next) : NodeStore where
  next := next
  nodes := node.subnodes
  closed := Node.operand_mem_subnodes
  id_lt := fun hbelow => hnext _ hbelow
  eq_of_id_eq := fun hleft hright => store.eq_of_id_eq (store.subnodes_subset hnode hleft)
    (store.subnodes_subset hnode hright)
  isShaped := fun hbelow => store.isShaped (store.subnodes_subset hnode hbelow)

end QueryModel
