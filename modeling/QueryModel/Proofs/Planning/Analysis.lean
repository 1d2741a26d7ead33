import QueryModel.Planning.Analysis
import QueryModel.Proofs.Query.Building

/-! # Analysis extends the store

The tree that a request is analysed into is built of new nodes, each from nodes that were built
before it.
-/

namespace QueryModel

namespace Building

variable {ε α : Type} {store : NodeStore}

theorem extends_check (result : Except ε α) :
    Extends (check result) store fun value _ => result = .ok value := by
  rintro next rfl value later hrun
  cases result with
  | error error => cases hrun
  | ok found =>
    cases hrun
    exact ⟨store, le_refl _, rfl, rfl⟩

theorem extends_forPlan {build : Building ConstructionError α} {made : α → NodeStore → Prop}
    (hbuild : Extends build store made) : Extends build.forPlan store made := by
  intro next hnext value later hrun
  cases hfirst : build next with
  | error error => simp [forPlan, mapError, hfirst, Except.mapError] at hrun
  | ok result =>
    obtain rfl : result = (value, later) := by
      simpa [forPlan, mapError, hfirst, Except.mapError] using hrun
    exact hbuild next hnext value later hfirst

end Building

namespace Analysis

open Building

variable {catalog : Catalog} {root : Root}

theorem extends_literal (store : NodeStore) (value : Json) (expected : Option ScalarType) :
    Extends (literal value expected) store fun made larger =>
      Node.expression (.scalar made) ∈ larger := by
  unfold literal
  split
  · exact (extends_check _).bind fun _ _ _ _ => extends_forPlan (Building.extends_literal _)
  · exact (extends_check _).bind fun _ _ _ _ => extends_forPlan (Building.extends_literal _)
  · exact (extends_check _).bind fun _ _ _ _ => extends_forPlan (extends_typedLiteral _ _)

theorem extends_column (store : NodeStore) (name : String) (aliasName : Option String) :
    Extends (column catalog root name aliasName) store fun made larger =>
      Node.expression (.scalar made) ∈ larger := by
  have hknown (larger : NodeStore) :
      Extends (do
        let _ ← check (catalog.attributeOf root.entity name)
        path catalog root name : Building PlanError Scalar) larger fun made larger =>
          Node.expression (.scalar made) ∈ larger :=
    (extends_check _).bind fun _ _ _ _ => extends_path catalog root name
  unfold column
  split
  · exact hknown store
  · split
    · exact hknown store
    · exact extends_fail.bind fun _ _ _ (hfalse : False) => hfalse.elim

mutual

theorem extends_operand (store : NodeStore) (expected : Option ScalarType)
    (value : Request.Operand) :
    Extends (operand catalog root expected value) store fun made larger =>
      Node.expression made ∈ larger := by
  cases value with
  | column name aliasName =>
    rw [operand]
    exact (extends_column store name aliasName).bind fun _ _ _ hmade => ExtendsIfOk.pure hmade
  | scalar value =>
    rw [operand]
    exact (extends_literal store value expected).bind fun _ _ _ hmade => ExtendsIfOk.pure hmade
  | parameter given =>
    rw [operand]
    exact (extends_parameter given _).bind fun _ _ _ hmade => ExtendsIfOk.pure hmade
  | list values =>
    rw [operand]
    refine (extends_operands store expected values).bind fun elements larger _ helements => ?_
    exact (extends_forPlan (extends_list helements)).bind fun _ _ _ hmade => ExtendsIfOk.pure hmade
termination_by structural value

theorem extends_operands (store : NodeStore) (expected : Option ScalarType)
    (values : List Request.Operand) :
    Extends (operands catalog root expected values) store fun made larger =>
      ∀ element ∈ made, Node.expression element ∈ larger := by
  cases values with
  | nil => exact ExtendsIfOk.pure (by simp)
  | cons value rest =>
    rw [operands]
    refine (extends_operand store expected value).bind fun element larger _ helement => ?_
    refine (extends_operands larger expected rest).bind fun elements largest hle helements => ?_
    exact ExtendsIfOk.pure
      (List.forall_mem_cons.mpr ⟨NodeStore.mem_of_le hle helement, helements⟩)
termination_by structural values

end

mutual

theorem extends_condition (store : NodeStore) (part : Request.Condition) :
    Extends (condition catalog root part) store fun made larger =>
      Node.predicate made ∈ larger := by
  cases part with
  | and parts =>
    rw [condition]
    refine (extends_conditions store parts).bind fun predicates larger _ hpredicates => ?_
    exact extends_forPlan (extends_junctionAll .and hpredicates)
  | or parts =>
    rw [condition]
    refine (extends_conditions store parts).bind fun predicates larger _ hpredicates => ?_
    exact extends_forPlan (extends_junctionAll .or hpredicates)
  | not part =>
    rw [condition]
    exact (extends_condition store part).bind fun inner larger _ hinner => extends_negation hinner
  | comparison left operator right =>
    rw [condition]
    refine (extends_operand store none left).bind fun left larger _ hleft => ?_
    refine (extends_check _).bind fun _ larger' hle _ => ?_
    refine (extends_operand larger' (some left.type) right).bind fun right largest hle' hright => ?_
    exact extends_forPlan
      (extends_comparison (NodeStore.mem_of_le (hle.trans hle') hleft) hright)
  | isNull value negated =>
    rw [condition]
    refine (extends_operand store none value).bind fun value larger _ hvalue => ?_
    exact extends_forPlan (extends_nullness negated hvalue)
  | between value lower upper negated =>
    rw [condition]
    refine (extends_operand store none value).bind fun value larger _ hvalue => ?_
    refine (extends_operand larger (some value.type) lower).bind fun lower larger' hle hlower => ?_
    refine (extends_operand larger' (some value.type) upper).bind
      fun upper largest hle' hupper => ?_
    exact extends_forPlan (extends_between negated
      (NodeStore.mem_of_le (hle.trans hle') hvalue) (NodeStore.mem_of_le hle' hlower) hupper)
termination_by structural part

theorem extends_conditions (store : NodeStore) (parts : List Request.Condition) :
    Extends (conditions catalog root parts) store fun made larger =>
      ∀ predicate ∈ made, Node.predicate predicate ∈ larger := by
  cases parts with
  | nil => exact ExtendsIfOk.pure (by simp)
  | cons part rest =>
    rw [conditions]
    refine (extends_condition store part).bind fun predicate larger _ hpredicate => ?_
    refine (extends_conditions larger rest).bind fun predicates largest hle hpredicates => ?_
    exact ExtendsIfOk.pure
      (List.forall_mem_cons.mpr ⟨NodeStore.mem_of_le hle hpredicate, hpredicates⟩)
termination_by structural parts

end

end Analysis

/-- The statement of a request is a tree of new nodes over the root of the request. -/
theorem Request.extends_analyse (request : Request) (catalog : Catalog) (store : NodeStore) :
    Building.Extends (request.analyse catalog) store fun statement larger =>
      statement.root = ⟨request.entity, request.aliasName⟩ ∧
        ∀ predicate ∈ statement.predicate, Node.predicate predicate ∈ larger := by
  unfold analyse
  refine (Building.extends_check _).bind fun _ larger _ _ => ?_
  dsimp only
  split
  · exact ExtendsIfOk.pure ⟨rfl, by simp⟩
  · next part hpart =>
    refine (Analysis.extends_condition larger part).bind fun predicate largest _ hpredicate => ?_
    refine ExtendsIfOk.pure ⟨rfl, ?_⟩
    rintro _ ⟨⟩
    exact hpredicate

end QueryModel
