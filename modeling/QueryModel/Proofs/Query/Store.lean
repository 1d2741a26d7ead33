import Mathlib.Data.Set.Insert
import QueryModel.Query.Node

/-! # Stores of nodes

A node is recognised by its identity only as long as no two nodes share one. A store is a set of
nodes in which that holds, together with an identity from which on none has been given out. What
builds nodes extends the store it starts from, whatever else it does.
-/

namespace QueryModel

namespace Node

/-- A node of a shape that can be built: lists stand on the right of the operators on lists and
nowhere else, no list is empty, and a literal that is a floating point number is finite. -/
def IsShaped : Node → Prop
  | .expression (.scalar node) => ∀ x, node.source = .literal (.float x) → x.isFinite
  | .expression (.list values) => values.elements ≠ []
  | .predicate (.comparison _ _ operator right) => operator.isMultiValued = right.isList
  | .predicate _ => True

theorem predicate_injective : Function.Injective predicate := fun _ _ hsame => by injection hsame

theorem scalar_injective : Function.Injective (expression ∘ Expression.scalar) := by
  intro left right hsame
  injection hsame with hsame
  injection hsame

theorem list_injective : Function.Injective (expression ∘ Expression.list) := by
  intro left right hsame
  injection hsame with hsame
  injection hsame

section operands

variable {property : Node → Prop}

theorem forall_operands_scalar (scalar : Scalar) :
    ∀ operand ∈ (Node.expression (.scalar scalar)).operands, property operand := by
  simp [operands]

theorem forall_operands_list {values : ValueList} :
    (∀ operand ∈ (Node.expression (.list values)).operands, property operand) ↔
      ∀ element ∈ values.elements, property (.expression (.scalar element)) := by
  simp [operands]

theorem forall_operands_comparison {id : NodeId} {left : Scalar} {operator : Operator}
    {right : Expression} :
    (∀ operand ∈ (Node.predicate (.comparison id left operator right)).operands,
      property operand) ↔ property (.expression (.scalar left)) ∧ property (.expression right) := by
  simp [operands, Predicate.operands]

theorem forall_operands_junction {id : NodeId} {left right : Predicate} {connective : Connective} :
    (∀ operand ∈ (Node.predicate (.junction id left connective right)).operands,
      property operand) ↔ property (.predicate left) ∧ property (.predicate right) := by
  simp [operands, Predicate.operands]

theorem forall_operands_negation {id : NodeId} {inner : Predicate} :
    (∀ operand ∈ (Node.predicate (.negation id inner)).operands, property operand) ↔
      property (.predicate inner) := by
  simp [operands, Predicate.operands]

theorem forall_operands_nullness {id : NodeId} {tested : Scalar} {negated : Bool} :
    (∀ operand ∈ (Node.predicate (.nullness id tested negated)).operands, property operand) ↔
      property (.expression (.scalar tested)) := by
  simp [operands, Predicate.operands]

theorem forall_operands_between {id : NodeId} {tested lower upper : Scalar} {negated : Bool} :
    (∀ operand ∈ (Node.predicate (.between id tested lower upper negated)).operands,
      property operand) ↔
      property (.expression (.scalar tested)) ∧ property (.expression (.scalar lower)) ∧
        property (.expression (.scalar upper)) := by
  simp [operands, Predicate.operands]

end operands

end Node

/-- Nodes that are known by their identities, with all their operands. -/
structure NodeStore where
  /-- No node of the store has this identity or a later one. -/
  next : NodeId
  nodes : Set Node
  closed : ∀ {node operand : Node}, node ∈ nodes → operand ∈ node.operands → operand ∈ nodes
  id_lt : ∀ {node : Node}, node ∈ nodes → node.id < next
  eq_of_id_eq : ∀ {left right : Node}, left ∈ nodes → right ∈ nodes → left.id = right.id →
    left = right
  isShaped : ∀ {node : Node}, node ∈ nodes → node.IsShaped

namespace NodeStore

instance : Membership Node NodeStore := ⟨fun store node => node ∈ store.nodes⟩

/-- A store is extended by one that has more nodes, or later identities for new ones. -/
instance : Preorder NodeStore where
  le store larger := store.next ≤ larger.next ∧ store.nodes ⊆ larger.nodes
  le_refl _ := ⟨Nat.le_refl _, Set.Subset.rfl⟩
  le_trans _ _ _ hfirst hsecond :=
    ⟨Nat.le_trans hfirst.1 hsecond.1, hfirst.2.trans hsecond.2⟩

theorem mem_of_le {store larger : NodeStore} (hle : store ≤ larger) {node : Node}
    (hnode : node ∈ store) : node ∈ larger := hle.2 hnode

theorem operand_mem (store : NodeStore) {node : Node} (hnode : node ∈ store) :
    ∀ operand ∈ node.operands, operand ∈ store := fun _ hoperand => store.closed hnode hoperand

theorem mem_of_junction (store : NodeStore) {id : NodeId} {left right : Predicate}
    {connective : Connective}
    (hnode : Node.predicate (.junction id left connective right) ∈ store) :
    Node.predicate left ∈ store ∧ Node.predicate right ∈ store :=
  Node.forall_operands_junction.mp (store.operand_mem hnode)

theorem mem_of_negation (store : NodeStore) {id : NodeId} {inner : Predicate}
    (hnode : Node.predicate (.negation id inner) ∈ store) : Node.predicate inner ∈ store :=
  Node.forall_operands_negation.mp (store.operand_mem hnode)

theorem predicate_eq_of_id_eq (store : NodeStore) {left right : Predicate}
    (hleft : Node.predicate left ∈ store) (hright : Node.predicate right ∈ store)
    (hid : left.id = right.id) : left = right :=
  Node.predicate_injective (store.eq_of_id_eq hleft hright hid)

/-- The store without nodes. -/
def empty (next : NodeId) : NodeStore where
  next := next
  nodes := ∅
  closed hnode := hnode.elim
  id_lt hnode := hnode.elim
  eq_of_id_eq hleft := hleft.elim
  isShaped hnode := hnode.elim

/-- The same nodes, after identities up to a later one have been given out. -/
def elapse (store : NodeStore) {later : NodeId} (hlater : store.next ≤ later) : NodeStore :=
  { store with
    next := later
    id_lt := fun hnode => Nat.lt_of_lt_of_le (store.id_lt hnode) hlater }

theorem le_elapse (store : NodeStore) {later : NodeId} (hlater : store.next ≤ later) :
    store ≤ store.elapse hlater := ⟨hlater, Set.Subset.rfl⟩

/-- An identity that has been given out and that no node of the store has. -/
def IsUnused (store : NodeStore) (id : NodeId) : Prop :=
  id < store.next ∧ ∀ node ∈ store, node.id ≠ id

theorem isUnused_elapse (store : NodeStore) :
    (store.elapse (Nat.le_succ store.next)).IsUnused store.next :=
  ⟨Nat.lt_succ_self _, fun _ hnode => Nat.ne_of_lt (store.id_lt hnode)⟩

/-- The store with another node, whose operands it has. -/
def insert (store : NodeStore) (node : Node) (hunused : store.IsUnused node.id)
    (hoperands : ∀ operand ∈ node.operands, operand ∈ store) (hshaped : node.IsShaped) :
    NodeStore where
  next := store.next
  nodes := Insert.insert node store.nodes
  closed := by
    rintro parent operand (rfl | hparent) hoperand
    · exact Or.inr (hoperands operand hoperand)
    · exact Or.inr (store.closed hparent hoperand)
  id_lt := by
    rintro other (rfl | hother)
    · exact hunused.1
    · exact store.id_lt hother
  eq_of_id_eq := by
    rintro left right (rfl | hleft) (rfl | hright) hid
    · rfl
    · exact (hunused.2 right hright hid.symm).elim
    · exact (hunused.2 left hleft hid).elim
    · exact store.eq_of_id_eq hleft hright hid
  isShaped := by
    rintro other (rfl | hother)
    · exact hshaped
    · exact store.isShaped hother

section insert

variable (store : NodeStore) (node : Node) (hunused : store.IsUnused node.id)
  (hoperands : ∀ operand ∈ node.operands, operand ∈ store) (hshaped : node.IsShaped)

theorem le_insert : store ≤ store.insert node hunused hoperands hshaped :=
  ⟨Nat.le_refl _, Set.subset_insert _ _⟩

theorem mem_insert_self : node ∈ store.insert node hunused hoperands hshaped :=
  Set.mem_insert _ _

end insert

end NodeStore

end QueryModel
