import QueryModel.Proofs.Planning.Acceptance
import QueryModel.Proofs.Planning.Parameters
import QueryModel.Proofs.Query.Redaction
import QueryModel.Proofs.Sql.Redaction

/-! # Plans without the data of their requests

The data of a request are the strings that are read as strings, the names of its parameters and
their positions. Requests that are the same but for their data are analysed alike, node by node, and
what becomes of them differs in its data only. Main statement: either both of them can be planned or
neither can, the texts of their plans are the same, and the parameters of each plan are the data of
its request, in order.
-/

namespace QueryModel

/-! ## The data of a request -/

namespace Json

/-- A JSON value without its characters, if it is read as a string where a type is expected. -/
def redacted (expected : ScalarType) (value : Json) : Json :=
  match value.literal expected with
  | .ok (.string _) => .string ""
  | _ => value

/-- The data of a JSON value where a type is expected. -/
def data (expected : ScalarType) (value : Json) : List Sql.Param :=
  match value.literal expected with
  | .ok (.string text) => [.string text]
  | _ => []

end Json

/-- The data of a parameter. -/
def Parameter.data : Parameter → Sql.Param
  | .named name => .variable name
  | .positional position => .positional position

namespace Request

namespace Operand

mutual

/-- An operand without its data. -/
def redacted (catalog : Catalog) (root : Root) (expected : ScalarType) : Operand → Operand
  | .column name aliasName => .column name aliasName
  | .scalar value => .scalar (value.redacted expected)
  | .parameter given => .parameter given.redacted
  | .list values => .list (redactedAll catalog root expected values)
termination_by structural value => value

/-- Operands without their data. -/
def redactedAll (catalog : Catalog) (root : Root) (expected : ScalarType) :
    List Operand → List Operand
  | [] => []
  | value :: rest => value.redacted catalog root expected :: redactedAll catalog root expected rest
termination_by structural values => values

end

mutual

/-- The data of an operand, from left to right. -/
def data (catalog : Catalog) (root : Root) (expected : ScalarType) : Operand → List Sql.Param
  | .column _ _ => []
  | .scalar value => value.data expected
  | .parameter given => [given.data]
  | .list values => dataAll catalog root expected values
termination_by structural value => value

/-- The data of operands, from left to right. -/
def dataAll (catalog : Catalog) (root : Root) (expected : ScalarType) :
    List Operand → List Sql.Param
  | [] => []
  | value :: rest => value.data catalog root expected ++ dataAll catalog root expected rest
termination_by structural values => values

end

end Operand

namespace Condition

mutual

/-- A condition without its data. Operands are expected to be of the type on their left. -/
def redacted (catalog : Catalog) (root : Root) : Condition → Condition
  | .and parts => .and (redactedAll catalog root parts)
  | .or parts => .or (redactedAll catalog root parts)
  | .not part => .not (part.redacted catalog root)
  | .comparison left operator right =>
    .comparison (left.redacted catalog root .any) operator
      (right.redacted catalog root (left.ownType catalog root))
  | .isNull value negated => .isNull (value.redacted catalog root .any) negated
  | .between value lower upper negated =>
    .between (value.redacted catalog root .any)
      (lower.redacted catalog root (value.ownType catalog root))
      (upper.redacted catalog root (value.ownType catalog root)) negated
termination_by structural part => part

/-- Conditions without their data. -/
def redactedAll (catalog : Catalog) (root : Root) : List Condition → List Condition
  | [] => []
  | part :: rest => part.redacted catalog root :: redactedAll catalog root rest
termination_by structural parts => parts

end

mutual

/-- The data of a condition, from left to right. -/
def data (catalog : Catalog) (root : Root) : Condition → List Sql.Param
  | .and parts => dataAll catalog root parts
  | .or parts => dataAll catalog root parts
  | .not part => part.data catalog root
  | .comparison left _ right =>
    left.data catalog root .any ++ right.data catalog root (left.ownType catalog root)
  | .isNull value _ => value.data catalog root .any
  | .between value lower upper _ =>
    value.data catalog root .any ++ lower.data catalog root (value.ownType catalog root) ++
      upper.data catalog root (value.ownType catalog root)
termination_by structural part => part

/-- The data of conditions, from left to right. -/
def dataAll (catalog : Catalog) (root : Root) : List Condition → List Sql.Param
  | [] => []
  | part :: rest => part.data catalog root ++ dataAll catalog root rest
termination_by structural parts => parts

end

end Condition

/-- A request without its data. -/
def redacted (request : Request) (catalog : Catalog) : Request :=
  { request with
    predicate := request.predicate.map
      (Condition.redacted catalog ⟨request.entity, request.aliasName⟩) }

/-- The data of a request, from left to right. -/
def data (request : Request) (catalog : Catalog) : List Sql.Param :=
  (request.predicate.map (Condition.data catalog ⟨request.entity, request.aliasName⟩)).getD []

end Request

/-! ## Analysis without data -/

/-- Where a JSON value is read as a string, so is the empty string. -/
theorem Json.literal_empty_of_literal {value : Json} {expected : ScalarType} {text : String}
    (hvalue : value.literal expected = .ok (.string text)) :
    (Json.string "").literal expected = .ok (.string "") := by
  have hholds : (Analysis.literalType expected (.string text)).isTextual := holds_of_literal hvalue
  have htextual : expected.isTextual ∨ expected = .any := by
    unfold Analysis.literalType at hholds
    split at hholds
    · next hany => exact Or.inr hany
    · exact Or.inl hholds
  rcases htextual with htextual | rfl
  · cases expected <;> cases htextual <;> rfl
  · rfl

theorem Json.literal_redacted (value : Json) (expected : ScalarType) :
    (value.redacted expected).literal expected = (value.literal expected).map Value.redacted := by
  unfold redacted
  split
  · next text htext =>
    rw [htext]
    exact literal_empty_of_literal htext
  · next hother =>
    cases hvalue : value.literal expected with
    | error error => rfl
    | ok found =>
      cases found with
      | string text => exact (hother text hvalue).elim
      | _ => rfl

namespace Building

theorem check_map {ε α β : Type} (change : α → β) (result : Except ε α) :
    check (result.map change) = change <$> (check result : Building ε α) := by
  cases result <;> rfl

theorem forPlan_map {α β : Type} (change : α → β) (build : Building ConstructionError α) :
    forPlan (change <$> build) = change <$> build.forPlan := by
  funext next
  change Except.mapError _ (build next >>= _) = Except.mapError _ (build next) >>= _
  cases build next <;> rfl

theorem map_eq_ok {ε α β : Type} {change : α → β} {build : Building ε α} {next later : NodeId}
    {result : β} :
    (change <$> build) next = .ok (result, later) ↔
      ∃ value, build next = .ok (value, later) ∧ change value = result := by
  change (build next >>= fun made => pure (change made.1, made.2)) = .ok (result, later) ↔ _
  cases build next with
  | error error => simp [Bind.bind, Except.bind]
  | ok made =>
    obtain ⟨value, last⟩ := made
    constructor
    · rintro ⟨⟩
      exact ⟨value, rfl, rfl⟩
    · rintro ⟨_, ⟨⟩, rfl⟩
      rfl

theorem literalType_redacted (value : Value) : literalType value.redacted = literalType value := by
  cases value <;> rfl

end Building

namespace Analysis

open Building Request

variable {catalog : Catalog} {root : Root}

theorem literal_redacted (value : Json) (expected : Option ScalarType) :
    literal (value.redacted (expected.getD .any)) expected =
      Scalar.redacted <$> literal value expected := by
  have hread (type : ScalarType) (typeOf : Value → ScalarType)
      (htype : ∀ found, typeOf found.redacted = typeOf found) :
      (do
        let found ← check ((value.redacted type).literal type)
        (typedLiteral found (typeOf found)).forPlan) =
      Scalar.redacted <$> (do
        let found ← check (value.literal type)
        (typedLiteral found (typeOf found)).forPlan) := by
    rw [Json.literal_redacted, check_map, bind_map_left, map_bind]
    simp only [htype, typedLiteral_redacted, forPlan_map]
  unfold literal
  split
  · exact hread .any Building.literalType literalType_redacted
  · exact hread .any Building.literalType literalType_redacted
  · next type hany => exact hread type (fun _ => type) fun _ => rfl

theorem redacted_column (name : String) (aliasName : Option String) :
    Scalar.redacted <$> column catalog root name aliasName = column catalog root name aliasName := by
  have hknown : Scalar.redacted <$> (do
        let _ ← check (catalog.attributeOf root.entity name)
        path catalog root name : Building PlanError Scalar) =
      (do
        let _ ← check (catalog.attributeOf root.entity name)
        path catalog root name) := by
    rw [map_bind]
    rfl
  unfold column
  split
  · exact hknown
  · split
    · exact hknown
    · rfl

mutual

theorem operand_redacted (expected : Option ScalarType) (value : Operand) :
    operand catalog root expected (value.redacted catalog root (expected.getD .any)) =
      Expression.redacted <$> operand catalog root expected value := by
  cases value with
  | column name aliasName =>
    rw [Operand.redacted, operand, map_bind]
    nth_rewrite 1 [← redacted_column]
    rw [bind_map_left]
    rfl
  | scalar value =>
    rw [Operand.redacted, operand, operand, literal_redacted, bind_map_left, map_bind]
    rfl
  | parameter given =>
    rw [Operand.redacted, operand, operand]
    rfl
  | list values =>
    rw [Operand.redacted, operand, operand, operands_redacted, bind_map_left, map_bind]
    simp only [list_redacted, forPlan_map, bind_map_left, map_bind]
    rfl
termination_by structural value

theorem operands_redacted (expected : Option ScalarType) (values : List Operand) :
    operands catalog root expected
        (Operand.redactedAll catalog root (expected.getD .any) values) =
      List.map Expression.redacted <$> operands catalog root expected values := by
  cases values with
  | nil => rfl
  | cons value rest =>
    rw [Operand.redactedAll, operands, operands, operand_redacted, bind_map_left, map_bind,
      operands_redacted]
    simp only [bind_map_left, map_bind]
    rfl
termination_by structural values

end

theorem operand_redacted_any (value : Operand) :
    operand catalog root none (value.redacted catalog root .any) =
      Expression.redacted <$> operand catalog root none value :=
  operand_redacted none value

theorem operand_redacted_some (type : ScalarType) (value : Operand) :
    operand catalog root (some type) (value.redacted catalog root type) =
      Expression.redacted <$> operand catalog root (some type) value :=
  operand_redacted (some type) value

mutual

theorem condition_redacted (part : Condition) :
    condition catalog root (part.redacted catalog root) =
      Predicate.redacted <$> condition catalog root part := by
  cases part with
  | and parts =>
    rw [Condition.redacted, condition, condition, conditions_redacted, bind_map_left, map_bind]
    simp only [junctionAll_redacted, forPlan_map]
  | or parts =>
    rw [Condition.redacted, condition, condition, conditions_redacted, bind_map_left, map_bind]
    simp only [junctionAll_redacted, forPlan_map]
  | not part =>
    rw [Condition.redacted, condition, condition, condition_redacted, bind_map_left, map_bind]
    rfl
  | comparison left operator right =>
    rw [Condition.redacted, condition, condition]
    rw [operand_redacted_any, bind_map_left, map_bind]
    -- The data on the right were taken away by the type of the operand on the left; only a node
    -- that was made of that operand is known to have this type.
    refine (succeedsIff_operand none left).bind_congr fun made hmade => ?_
    rw [Expression.type_redacted, ← hmade.type_eq]
    simp only [operand_redacted_some, bind_map_left, map_bind, comparison_redacted, forPlan_map]
  | isNull value negated =>
    rw [Condition.redacted, condition, condition, operand_redacted_any, bind_map_left, map_bind]
    simp only [nullness_redacted, forPlan_map]
  | between value lower upper negated =>
    rw [Condition.redacted, condition, condition, operand_redacted_any, bind_map_left, map_bind]
    refine (succeedsIff_operand none value).bind_congr fun made hmade => ?_
    rw [Expression.type_redacted, ← hmade.type_eq]
    simp only [operand_redacted_some, bind_map_left, map_bind, between_redacted, forPlan_map]
termination_by structural part

theorem conditions_redacted (parts : List Condition) :
    conditions catalog root (Condition.redactedAll catalog root parts) =
      List.map Predicate.redacted <$> conditions catalog root parts := by
  cases parts with
  | nil => rfl
  | cons part rest =>
    rw [Condition.redactedAll, conditions, conditions, condition_redacted, bind_map_left, map_bind,
      conditions_redacted]
    simp only [bind_map_left, map_bind]
    rfl
termination_by structural parts

end

end Analysis

/-- The data of a request do not enter its analysis. -/
theorem Request.analyse_redacted (request : Request) (catalog : Catalog) :
    (request.redacted catalog).analyse catalog = Statement.redacted <$> request.analyse catalog := by
  obtain ⟨entity, aliasName, part⟩ := request
  unfold analyse
  rw [map_bind]
  cases part with
  | none => rfl
  | some part =>
    simp only [redacted, Option.map_some, Analysis.condition_redacted, bind_map_left, map_bind]
    rfl

/-! ## Translation without data -/

namespace TableContext

variable (context : TableContext)

theorem column_redacted (root : Root) (attributeName : String) :
    Sql.Expression.redacted <$> context.column root attributeName =
      context.column root attributeName := by
  unfold column
  split
  · cases context.catalog.attributeOf root.entity attributeName <;> rfl
  · rfl

theorem scalar_redacted (node : Scalar) :
    context.scalar node.redacted = Sql.Expression.redacted <$> context.scalar node := by
  obtain ⟨id, type, aliasName, source⟩ := node
  cases source with
  | literal value => cases value <;> rfl
  | parameter given => cases given <;> rfl
  | path root attributeName => exact (context.column_redacted root attributeName).symm

theorem scalars_redacted (nodes : List Scalar) :
    (nodes.map Scalar.redacted).mapM context.scalar =
      List.map Sql.Expression.redacted <$> nodes.mapM context.scalar := by
  induction nodes with
  | nil => rfl
  | cons node rest ih =>
    rw [List.map_cons, List.mapM_cons, List.mapM_cons, ih, scalar_redacted]
    simp only [bind_map_left, map_bind]
    rfl

theorem isNeverNull_redacted (node : Scalar) :
    context.isNeverNull node.redacted = context.isNeverNull node := by
  obtain ⟨id, type, aliasName, source⟩ := node
  cases source <;> rfl

theorem comparison_redacted (left : Sql.Expression) (operator : Operator) (right : Expression) :
    context.comparison left.redacted operator right.redacted =
      Sql.Expression.redacted <$> context.comparison left operator right := by
  cases right with
  | scalar node =>
    simp only [Expression.redacted, comparison, scalar_redacted, bind_map_left, map_bind]
    rfl
  | list values =>
    simp only [Expression.redacted, ValueList.redacted, comparison, scalars_redacted, bind_map_left,
      map_bind]
    congr 1
    funext items
    cases operator <;> simp [Sql.Expression.redacted, Sql.redactedItems_eq_map]

theorem predicate_redacted (predicate : Predicate) :
    context.predicate predicate.redacted =
      Sql.Expression.redacted <$> context.predicate predicate := by
  induction predicate with
  | comparison id left operator right =>
    simp only [Predicate.redacted, TableContext.predicate]
    split
    · rw [scalar_redacted, bind_map_left, map_bind]
      simp only [comparison_redacted]
    · rfl
  | junction id left connective right ihleft ihright =>
    simp only [Predicate.redacted, TableContext.predicate, ihleft, ihright, bind_map_left, map_bind]
    cases connective <;> rfl
  | negation id inner ih =>
    simp only [Predicate.redacted, TableContext.predicate, ih, bind_map_left, map_bind]
    rfl
  | nullness id operand negated =>
    simp only [Predicate.redacted, TableContext.predicate, nullness, scalar_redacted,
      isNeverNull_redacted, bind_map_left, map_bind]
    congr 1
    funext value
    congr 1
    funext never
    cases never <;> cases negated <;> rfl
  | between id operand lower upper negated =>
    simp only [Predicate.redacted, TableContext.predicate, scalar_redacted, bind_map_left, map_bind]
    rfl

end TableContext

theorem NegationStrategy.redacted_applied (strategy : NegationStrategy) (statement : Statement) :
    (strategy.applied statement).redacted = strategy.applied statement.redacted := by
  obtain ⟨root, predicate⟩ := statement
  cases strategy with
  | wrap => rfl
  | distribute =>
    simp only [applied, Statement.redacted, Option.map_map, Function.comp_def,
      Predicate.redacted_distributed]

namespace Statement

theorem select_redacted (statement : Statement) (configuration : Configuration) :
    statement.redacted.select configuration =
      Sql.Select.redacted <$> statement.select configuration := by
  obtain ⟨root, predicate⟩ := statement
  unfold select
  rw [map_bind]
  cases predicate with
  | none => rfl
  | some predicate =>
    simp only [redacted, Option.map_some, TableContext.predicate_redacted, bind_map_left, map_bind]
    rfl

/-- Statements that are the same but for their data are planned alike. -/
theorem exists_planned_eq_of_redacted_eq {statement other : Statement}
    {configuration : Configuration} {plan : Plan} (hsame : statement.redacted = other.redacted)
    (hplan : statement.planned configuration = .ok plan) :
    ∃ otherPlan, other.planned configuration = .ok otherPlan ∧
      plan.query.redacted = otherPlan.query.redacted := by
  obtain ⟨query, hquery, ⟨⟩⟩ := Except.bind_eq_ok.mp hplan
  have hselect : Sql.Select.redacted <$> other.select configuration = .ok query.redacted := by
    rw [← select_redacted, ← hsame, select_redacted, hquery]
    rfl
  cases hother : other.select configuration with
  | error error =>
    rw [hother] at hselect
    cases hselect
  | ok otherQuery =>
    rw [hother] at hselect
    refine ⟨_, Except.bind_eq_ok.mpr ⟨otherQuery, hother, rfl⟩, ?_⟩
    exact (Except.ok.inj hselect).symm

end Statement

/-! ## Data among the leaves -/

namespace Request

variable {catalog : Catalog} {root : Root} {expected : ScalarType}

theorem Operand.YieldsScalar.toList_param? {operand : Operand} {node : Scalar}
    (hyields : operand.YieldsScalar catalog root expected node) :
    node.param?.toList = operand.data catalog root expected := by
  cases hyields with
  | column id aliasName hknown => rfl
  | literal id hliteral =>
    rw [Operand.data, Json.data, hliteral]
    rename_i found
    cases found <;> rfl
  | parameter id given => cases given <;> rfl

theorem Operand.YieldsScalar.filterMap_param? {operands : List Operand} {nodes : List Scalar}
    (hyields : List.Forall₂ (Operand.YieldsScalar catalog root expected) operands nodes) :
    nodes.filterMap Scalar.param? = Operand.dataAll catalog root expected operands := by
  rw [List.filterMap_eq_flatMap_toList]
  induction hyields with
  | nil => rfl
  | cons hfirst hrest ih => rw [List.flatMap_cons, Operand.dataAll, ih, hfirst.toList_param?]

theorem Operand.Yields.filterMap_param? {operand : Operand} {made : Expression}
    (hyields : operand.Yields catalog root expected made) :
    made.leaves.filterMap Scalar.param? = operand.data catalog root expected := by
  cases hyields with
  | scalar hnode =>
    rw [← hnode.toList_param?, Expression.leaves, List.filterMap_eq_flatMap_toList,
      List.flatMap_singleton]
  | list id hvalues => exact Operand.YieldsScalar.filterMap_param? hvalues

namespace Condition

theorem data_junction (connective : Connective) (parts : List Condition) :
    (junction connective parts).data catalog root = dataAll catalog root parts := by
  cases connective <;> rfl

theorem dataAll_append (parts others : List Condition) :
    dataAll catalog root (parts ++ others) =
      dataAll catalog root parts ++ dataAll catalog root others := by
  induction parts with
  | nil => rfl
  | cons part rest ih => rw [List.cons_append, dataAll, dataAll, ih, List.append_assoc]

theorem dataAll_singleton (part : Condition) :
    dataAll catalog root [part] = part.data catalog root :=
  List.append_nil _

/-- The strings and parameters among the leaves of what a condition yields are its data. -/
theorem Yields.filterMap_param? {part : Condition} {made : Predicate}
    (hyields : part.Yields catalog root made) :
    made.leaves.filterMap Scalar.param? = part.data catalog root := by
  induction hyields with
  | single connective hpart ih => rw [data_junction, dataAll_singleton, ih]
  | join id hparts hpart ihparts ihpart =>
    rw [data_junction, dataAll_append, dataAll_singleton, Predicate.leaves, List.filterMap_append,
      ihparts, ihpart, data_junction]
  | negation id hpart ih => exact ih
  | comparison id hleft hoperator hright hshape =>
    have hright := hright.filterMap_param?
    rw [List.filterMap_eq_flatMap_toList] at hright ⊢
    rw [Predicate.leaves, List.flatMap_cons, hleft.toList_param?, hright, hleft.type_eq, data]
  | nullness id negated hvalue =>
    rw [Predicate.leaves, List.filterMap_eq_flatMap_toList, List.flatMap_singleton,
      hvalue.toList_param?, data]
  | between id negated hvalue hlower hupper =>
    rw [Predicate.leaves, List.filterMap_eq_flatMap_toList, List.flatMap_cons, List.flatMap_cons,
      List.flatMap_singleton, hvalue.toList_param?, hlower.toList_param?, hupper.toList_param?,
      hvalue.type_eq, data, List.append_assoc]

end Condition

/-- The strings and parameters among the leaves of an analysed request are its data. -/
theorem Yields.filterMap_param? {request : Request} {statement : Statement}
    (hyields : request.Yields catalog statement) :
    statement.leaves.filterMap Scalar.param? = request.data catalog := by
  obtain ⟨entity, aliasName, part⟩ := request
  obtain ⟨root, predicate⟩ := statement
  obtain ⟨rfl, hpart⟩ := hyields
  cases hpart with
  | none => rfl
  | some hpart => exact hpart.filterMap_param?

end Request

end QueryModel
