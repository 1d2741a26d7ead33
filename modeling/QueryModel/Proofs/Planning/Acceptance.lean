import QueryModel.Proofs.Planning.Restriction
import QueryModel.Proofs.Planning.WellFormed

/-! # What the analysis accepts

Each step of the analysis succeeds under a condition that does not depend on the identities given
out before, and yields what the step describes. Put together along the request, these conditions say
that it is well-formed. Main statement: the analysis accepts exactly the well-formed requests.
-/

namespace QueryModel

theorem Catalog.exists_entity_eq_ok_iff {catalog : Catalog} {entityName : String} :
    (∃ entity, catalog.entity entityName = .ok entity) ↔
      (catalog.entities.get? entityName).isSome := by
  simp only [entity_eq_ok_iff, Option.isSome_iff_exists]

namespace Building.SucceedsIff

theorem check {ε α : Type} (result : Except ε α) :
    SucceedsIff (Building.check result) (∃ value, result = .ok value) fun value =>
      result = .ok value := by
  intro next
  constructor
  · rintro ⟨value, rfl⟩
    exact ⟨value, next, rfl⟩
  · intro value later hrun
    cases result with
    | error error => cases hrun
    | ok found =>
      cases hrun
      exact ⟨⟨_, rfl⟩, rfl⟩

theorem forPlan {α : Type} {build : Building ConstructionError α} {condition : Prop}
    {made : α → Prop} (hbuild : SucceedsIff build condition made) :
    SucceedsIff build.forPlan condition made :=
  SucceedsIff.mapError hbuild PlanError.construction

end Building.SucceedsIff

namespace Analysis

open Building Request

variable {catalog : Catalog} {root : Root}

/-- A JSON value becomes a node wherever it can be read as a literal. -/
theorem succeedsIff_literal (value : Json) (expected : Option ScalarType) :
    SucceedsIff (literal value expected)
      (∃ found, value.literal (expected.getD .any) = .ok found) fun made =>
      (Operand.scalar value).YieldsScalar catalog root (expected.getD .any) made := by
  have hread (type : ScalarType) :
      SucceedsIff (do
        let found ← check (value.literal type)
        (typedLiteral found (literalType type found)).forPlan)
        (∃ found, value.literal type = .ok found) fun made =>
        (Operand.scalar value).YieldsScalar catalog root type made := by
    refine ((SucceedsIff.check _).bind fun found hfound => ?_).congr (and_true _).to_iff
    have hfinite : ∀ x, found = .float x → x.isFinite := by
      rintro x rfl
      exact Json.isFinite_of_literal hfound
    have hbuilt := (succeedsIff_typedLiteral found (literalType type found)).forPlan
    apply (hbuilt.congr (iff_true_intro hfinite)).mono
    rintro _ - ⟨id, rfl⟩
    exact .literal id hfound
  unfold literal
  split
  · exact hread .any
  · exact hread .any
  · next type hany =>
    have htyped := hread type
    have htype (found : Value) : literalType type found = type := if_neg fun hsame => hany hsame
    simp only [htype] at htyped
    exact htyped

theorem succeedsIff_column (expected : ScalarType) (name : String) (aliasName : Option String) :
    SucceedsIff (column catalog root name aliasName)
      ((∀ given ∈ aliasName, given = root.aliasName) ∧
        (catalog.attribute? root.entity name).isSome) fun made =>
      (Operand.column name aliasName).YieldsScalar catalog root expected made := by
  have hknown : SucceedsIff (do
      let _ ← check (catalog.attributeOf root.entity name)
      path catalog root name : Building PlanError Scalar)
      (catalog.attribute? root.entity name).isSome fun made =>
      (Operand.column name aliasName).YieldsScalar catalog root expected made := by
    have hattribute : (∃ known, catalog.attributeOf root.entity name = .ok known) ∧ True ↔
        (catalog.attribute? root.entity name).isSome := by
      simp only [Catalog.attributeOf_eq_ok_iff, and_true, Option.isSome_iff_exists]
    refine ((SucceedsIff.check _).bind fun known hfound => ?_).congr hattribute
    apply (succeedsIff_scalar _ _).mono
    rintro _ - ⟨id, rfl⟩
    rw [Catalog.attributeOf_eq_ok_iff] at hfound
    have htype : catalog.attributeType root.entity name = known.type := by
      rw [Catalog.attributeType, hfound]
      rfl
    rw [htype]
    exact .column id aliasName hfound
  unfold column
  split
  · exact hknown.congr (by simp)
  · next given =>
    split
    · next hsame => exact hknown.congr (by simp [hsame])
    · next hother =>
      exact (SucceedsIff.fail_bind _ _).congr (by simp [hother])

mutual

/-- An operand is analysed exactly if it is well-formed. -/
theorem succeedsIff_operand (expected : Option ScalarType) (value : Operand) :
    SucceedsIff (operand catalog root expected value)
      (value.IsWellFormed catalog root (expected.getD .any))
      (value.Yields catalog root (expected.getD .any)) := by
  cases value with
  | column name aliasName =>
    rw [operand]
    exact ((succeedsIff_column _ name aliasName).map fun _ hmade => .scalar hmade).congr
      Operand.isWellFormed_column.symm
  | scalar value =>
    rw [operand]
    exact ((succeedsIff_literal value expected).map fun _ hmade => .scalar hmade).congr
      Operand.isWellFormed_scalar.symm
  | parameter given =>
    rw [operand]
    refine ((succeedsIff_scalar _ _).map ?_).congr (iff_of_true trivial (.parameter given))
    rintro _ ⟨id, rfl⟩
    exact .scalar (.parameter id given)
  | list values =>
    rw [operand]
    refine ((succeedsIff_operands expected values).bind fun elements helements => ?_).congr
      Operand.isWellFormed_list.symm
    have hshape : (elements ≠ [] ∧ ∀ element ∈ elements, element.isList = false) ↔
        values ≠ [] ∧ ∀ value ∈ values, value.isList = false :=
      Operand.Yields.isFlat_iff helements
    have hbuilt := (succeedsIff_list elements).forPlan
    apply (hbuilt.congr hshape).map
    rintro _ ⟨id, first, rest, rfl, rfl⟩
    rw [List.forall₂_map_right_iff] at helements
    apply Operand.Yields.list id
    exact helements.imp fun _ _ hmade => hmade.yieldsScalar
termination_by structural value

theorem succeedsIff_operands (expected : Option ScalarType) (values : List Operand) :
    SucceedsIff (operands catalog root expected values)
      (∀ value ∈ values, value.IsWellFormed catalog root (expected.getD .any))
      (List.Forall₂ (Operand.Yields catalog root (expected.getD .any)) values) := by
  cases values with
  | nil =>
    rw [operands]
    exact (SucceedsIff.pure .nil).congr (by simp)
  | cons value rest =>
    rw [operands, List.forall_mem_cons]
    refine (succeedsIff_operand expected value).bind fun element helement => ?_
    exact (succeedsIff_operands expected rest).map fun elements helements =>
      .cons helement helements
termination_by structural values

end

theorem succeedsIff_checkOperator (operator : Operator) (type : ScalarType) :
    SucceedsIff (check (checkOperator operator type)) (operator ∈ type.operators) fun _ =>
      operator ∈ type.operators := by
  have hoperator : (∃ value, checkOperator operator type = .ok value) ↔
      operator ∈ type.operators := by
    unfold checkOperator
    split <;> simp_all
  exact ((SucceedsIff.check _).congr hoperator).mono fun _ hmem _ => hmem

/-- Predicates made of conditions are joined if there are any. -/
theorem succeedsIff_joined (connective : Connective) {parts : List Condition}
    {predicates : List Predicate}
    (hparts : List.Forall₂ (Condition.Yields catalog root) parts predicates) :
    SucceedsIff (junctionAll connective predicates).forPlan (parts ≠ [])
      ((Condition.junction connective parts).Yields catalog root) := by
  have hne : predicates ≠ [] ↔ parts ≠ [] := by
    cases hparts <;> simp
  have hbuilt := (succeedsIff_junctionAll connective predicates).forPlan
  apply (hbuilt.congr hne).mono
  intro joined _ hjoined
  exact .of_isJoined hjoined hparts

mutual

/-- A condition is analysed exactly if it is well-formed. -/
theorem succeedsIff_condition (part : Condition) :
    SucceedsIff (condition catalog root part) (part.IsWellFormed catalog root)
      (part.Yields catalog root) := by
  cases part with
  | and parts =>
    rw [condition]
    refine SucceedsIff.congr ?_ Condition.isWellFormed_and.symm
    exact (succeedsIff_conditions parts).bind fun predicates hpredicates =>
      succeedsIff_joined .and hpredicates
  | or parts =>
    rw [condition]
    refine SucceedsIff.congr ?_ Condition.isWellFormed_or.symm
    exact (succeedsIff_conditions parts).bind fun predicates hpredicates =>
      succeedsIff_joined .or hpredicates
  | not part =>
    rw [condition]
    refine SucceedsIff.congr ?_ Condition.isWellFormed_not.symm
    refine ((succeedsIff_condition part).bind fun inner hinner => ?_).congr (and_true _).to_iff
    apply (succeedsIff_negation inner).mono
    rintro _ - ⟨id, rfl⟩
    exact .negation id hinner
  | comparison left operator right =>
    rw [condition]
    refine SucceedsIff.congr ?_ Condition.isWellFormed_comparison.symm
    refine (succeedsIff_operand none left).bind fun made hmade => ?_
    -- The condition on what follows must not depend on the node that was made: its type and its
    -- sort are read off the operand instead.
    rw [hmade.type_eq]
    refine (succeedsIff_checkOperator operator _).bind fun _ hoperator => ?_
    refine (succeedsIff_operand (some _) right).bind fun expression hright => ?_
    rw [← hmade.isList_eq, ← hright.isList_eq]
    have hbuilt := (succeedsIff_comparison made operator expression).forPlan
    apply hbuilt.mono
    rintro _ ⟨-, hshape⟩ ⟨id, node, rfl, rfl⟩
    rw [← hmade.type_eq] at hoperator hright
    exact .comparison id hmade.yieldsScalar hoperator hright hshape
  | isNull value negated =>
    rw [condition]
    refine SucceedsIff.congr ?_ Condition.isWellFormed_isNull.symm
    refine (succeedsIff_operand none value).bind fun made hmade => ?_
    rw [← hmade.isList_eq]
    have hbuilt := (succeedsIff_nullness made negated).forPlan
    apply hbuilt.mono
    rintro _ - ⟨id, node, rfl, rfl⟩
    exact .nullness id negated hmade.yieldsScalar
  | between value lower upper negated =>
    rw [condition]
    refine SucceedsIff.congr ?_ Condition.isWellFormed_between.symm
    refine (succeedsIff_operand none value).bind fun made hmade => ?_
    rw [hmade.type_eq]
    refine (succeedsIff_operand (some _) lower).bind fun low hlow => ?_
    refine (succeedsIff_operand (some _) upper).bind fun high hhigh => ?_
    rw [← hmade.isList_eq, ← hlow.isList_eq, ← hhigh.isList_eq]
    have hbuilt := (succeedsIff_between made low high negated).forPlan
    apply hbuilt.mono
    rintro _ - ⟨id, node, lowNode, highNode, rfl, rfl, rfl, rfl⟩
    rw [← hmade.type_eq] at hlow hhigh
    exact .between id negated hmade.yieldsScalar hlow.yieldsScalar hhigh.yieldsScalar
termination_by structural part

theorem succeedsIff_conditions (parts : List Condition) :
    SucceedsIff (conditions catalog root parts)
      (∀ part ∈ parts, part.IsWellFormed catalog root)
      (List.Forall₂ (Condition.Yields catalog root) parts) := by
  cases parts with
  | nil =>
    rw [conditions]
    exact (SucceedsIff.pure .nil).congr (by simp)
  | cons part rest =>
    rw [conditions, List.forall_mem_cons]
    refine (succeedsIff_condition part).bind fun predicate hpredicate => ?_
    exact (succeedsIff_conditions rest).map fun predicates hpredicates =>
      .cons hpredicate hpredicates
termination_by structural parts

end

end Analysis

/-- A request is analysed exactly if it is well-formed, and into what it describes. -/
theorem Request.succeedsIff_analyse (request : Request) (catalog : Catalog) :
    Building.SucceedsIff (request.analyse catalog) (request.IsWellFormed catalog)
      (request.Yields catalog) := by
  refine Building.SucceedsIff.congr ?_ Request.isWellFormed_iff.symm
  unfold analyse
  refine ((Building.SucceedsIff.check _).congr Catalog.exists_entity_eq_ok_iff).bind
    fun entity _ => ?_
  dsimp only
  split
  · next hnone =>
    refine (Building.SucceedsIff.pure ⟨rfl, ?_⟩).congr (by simp [hnone])
    rw [hnone]
    exact .none
  · next part hpart =>
    have hcondition : (∀ part ∈ request.predicate,
        part.IsWellFormed catalog ⟨request.entity, request.aliasName⟩) ↔
        part.IsWellFormed catalog ⟨request.entity, request.aliasName⟩ := by
      simp [hpart]
    refine ((Analysis.succeedsIff_condition part).map fun predicate hmade => ⟨rfl, ?_⟩).congr
      hcondition.symm
    rw [hpart]
    exact .some hmade

/-- A request is accepted by the analysis, whatever was built before, exactly if it is
well-formed. -/
theorem Request.exists_analyse_iff_isWellFormed (request : Request) (catalog : Catalog)
    (start : NodeId) :
    (∃ statement later, request.analyse catalog start = .ok (statement, later)) ↔
      request.IsWellFormed catalog :=
  (request.succeedsIff_analyse catalog).succeeds_iff start

end QueryModel
