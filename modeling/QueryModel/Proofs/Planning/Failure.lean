import QueryModel.Proofs.Planning.Parameters
import QueryModel.Proofs.Planning.Typing
import QueryModel.Proofs.Query.Placed

/-! # When planning fails

A prepared tree is translated without being checked again: its paths are known, and its lists stand
where the translation has a place for them. What is left to fail is an operator that the dialect
does not have. Main statement: planning a prepared request fails exactly for BigQuery and a
comparison without regard to case, and names the operator of the leftmost one.
-/

namespace QueryModel

/-- `dialect.Refuses operators outcome`: the outcome names the first of the operators that the
dialect does not have, and is a success if there is none. -/
def Dialect.Refuses {α : Type} (dialect : Dialect) (operators : List Operator)
    (outcome : Except PlanError α) : Prop :=
  match operators.find? fun operator => !dialect.supports operator with
  | none => ∃ value, outcome = .ok value
  | some operator => outcome = .error (.notSupported (.operatorInDialect operator))

namespace Dialect.Refuses

variable {α β : Type} {dialect : Dialect} {operators others : List Operator}

theorem of_eq_ok {outcome : Except PlanError α} {value : α} (houtcome : outcome = .ok value) :
    dialect.Refuses [] outcome :=
  ⟨value, houtcome⟩

/-- What is done after a step is refused for its own operators, unless the step was refused. -/
theorem bind {first : Except PlanError α} {rest : α → Except PlanError β}
    (hfirst : dialect.Refuses operators first)
    (hrest : ∀ value, first = .ok value → dialect.Refuses others (rest value)) :
    dialect.Refuses (operators ++ others) (first >>= rest) := by
  unfold Refuses at hfirst ⊢
  rw [List.find?_append]
  cases hfound : operators.find? fun operator => !dialect.supports operator with
  | none =>
    rw [hfound] at hfirst
    obtain ⟨value, rfl⟩ := hfirst
    exact hrest value rfl
  | some operator =>
    rw [hfound] at hfirst
    subst hfirst
    rfl

theorem map {first : Except PlanError α} (hfirst : dialect.Refuses operators first)
    (change : α → β) : dialect.Refuses operators (first >>= fun value => pure (change value)) := by
  rw [← List.append_nil operators]
  exact hfirst.bind fun _ _ => of_eq_ok rfl

end Dialect.Refuses

theorem Except.exists_mapM_eq_ok {ε α β : Type} {step : α → Except ε β} {inputs : List α}
    (hinputs : ∀ input ∈ inputs, ∃ result, step input = .ok result) :
    ∃ results, inputs.mapM step = .ok results := by
  induction inputs with
  | nil => exact ⟨[], rfl⟩
  | cons input rest ih =>
    obtain ⟨⟨first, hfirst⟩, hrest⟩ := List.forall_mem_cons.mp hinputs
    obtain ⟨others, hothers⟩ := ih hrest
    refine ⟨first :: others, ?_⟩
    rw [List.mapM_cons, hfirst, hothers]
    rfl

/-- BigQuery refuses what is left of the leftmost comparison without regard to case. -/
theorem NegationStrategy.find?_map_operatorOf (strategy : NegationStrategy) (dialect : Dialect)
    (placed : List PlacedOperator) :
    (placed.map strategy.operatorOf).find? (fun operator => !dialect.supports operator) =
      match dialect with
      | .postgres => none
      | .bigQuery =>
        (placed.find? fun placed => placed.operator.ignoresCase).map strategy.operatorOf := by
  rw [List.find?_map]
  cases dialect with
  | postgres => simp [Dialect.supports]
  | bigQuery =>
    have hsame : (fun operator => !Dialect.bigQuery.supports operator) ∘ strategy.operatorOf =
        fun placed => placed.operator.ignoresCase := by
      funext placed
      simp [Dialect.supports, ignoresCase_operatorOf]
    rw [hsame]

/-! ## Translating what was checked -/

namespace TableContext

variable {context : TableContext}

/-- `context.Knows scalar`: the scalar is translated. -/
def Knows (context : TableContext) (scalar : Scalar) : Prop :=
  ∃ value, context.scalar scalar = .ok value

theorem knows_of_isTyped {scalar : Scalar} {expected : ScalarType}
    (htyped : scalar.IsTyped context.catalog context.root expected) : context.Knows scalar := by
  unfold Scalar.IsTyped at htyped
  unfold Knows TableContext.scalar
  split at htyped
  · next found name hsource =>
    obtain ⟨rfl, known, hknown, -⟩ := htyped
    rw [← Catalog.attributeOf_eq_ok_iff] at hknown
    rw [hsource]
    refine ⟨.column (.aliased context.tableAlias) known.columnName, ?_⟩
    dsimp only
    rw [column, if_pos rfl, hknown]
    rfl
  · next value hsource =>
    rw [hsource]
    exact ⟨_, rfl⟩
  · next supplied hsource =>
    rw [hsource]
    exact ⟨_, rfl⟩

theorem Knows.exists_isNeverNull_eq {scalar : Scalar} (hknows : context.Knows scalar) :
    ∃ never, context.isNeverNull scalar = .ok never := by
  obtain ⟨value, hvalue⟩ := hknows
  unfold TableContext.scalar at hvalue
  unfold isNeverNull
  split at hvalue
  · next hsource =>
    rw [hsource]
    exact ⟨_, rfl⟩
  · next hsource =>
    rw [hsource]
    exact ⟨_, rfl⟩
  · next root attributeName hsource =>
    obtain ⟨hroot, known, hknown, -⟩ := column_eq_ok hvalue
    rw [hsource, hroot]
    refine ⟨!known.nullable, ?_⟩
    dsimp only
    rw [hknown]
    rfl

theorem exists_comparison_eq (left : Sql.Expression) {operator : Operator} {right : Expression}
    (hshape : right.isList = operator.isMultiValued)
    (hright : ∀ leaf ∈ right.leaves, context.Knows leaf) :
    ∃ truth, context.comparison left operator right = .ok truth := by
  cases right with
  | scalar node =>
    obtain ⟨value, hvalue⟩ := List.forall_mem_singleton.mp hright
    refine ⟨.binary left operator.sql value, ?_⟩
    rw [comparison, hvalue]
    rfl
  | list values =>
    obtain ⟨items, hitems⟩ := Except.exists_mapM_eq_ok hright
    change values.elements.mapM context.scalar = .ok items at hitems
    rw [comparison, hitems]
    cases operator with
    | isIn => exact ⟨_, rfl⟩
    | notIn => exact ⟨_, rfl⟩
    | _ => cases hshape

theorem exists_nullness_eq {operand : Scalar} (hoperand : context.Knows operand) (negated : Bool) :
    ∃ truth, context.nullness operand negated = .ok truth := by
  obtain ⟨never, hnever⟩ := hoperand.exists_isNeverNull_eq
  obtain ⟨value, hvalue⟩ := hoperand
  rw [nullness, hvalue]
  change ∃ truth, (context.isNeverNull operand >>= _) = .ok truth
  rw [hnever]
  cases never <;> exact ⟨_, rfl⟩

/-- A predicate over known values, of the right shape, is refused for its operators only. -/
theorem refuses_predicate {predicate : Predicate}
    (hknown : ∀ leaf ∈ predicate.leaves, context.Knows leaf) (hshaped : predicate.IsShaped) :
    context.dialect.Refuses predicate.operators (context.predicate predicate) := by
  induction predicate with
  | comparison id left operator right =>
    obtain ⟨⟨leftValue, hleft⟩, hright⟩ := List.forall_mem_cons.mp hknown
    obtain ⟨truth, htruth⟩ := exists_comparison_eq leftValue hshaped hright
    rw [TableContext.predicate]
    cases hsupports : context.dialect.supports operator with
    | true =>
      rw [Dialect.Refuses, Predicate.operators, List.find?_cons_of_neg (by simp [hsupports])]
      refine ⟨truth, ?_⟩
      rw [if_pos rfl, hleft]
      exact htruth
    | false =>
      rw [Dialect.Refuses, Predicate.operators, List.find?_cons_of_pos (by simp [hsupports])]
      rfl
  | junction id left connective right ihleft ihright =>
    obtain ⟨hleft, hright⟩ := List.forall_mem_append.mp hknown
    rw [TableContext.predicate]
    exact (ihleft hleft hshaped.1).bind fun _ _ => (ihright hright hshaped.2).map _
  | negation id inner ih => exact (ih hknown hshaped).map _
  | nullness id operand negated =>
    obtain ⟨truth, htruth⟩ := exists_nullness_eq (List.forall_mem_singleton.mp hknown) negated
    exact .of_eq_ok htruth
  | between id operand lower upper negated =>
    simp only [Predicate.leaves, List.forall_mem_cons] at hknown
    obtain ⟨⟨value, hvalue⟩, ⟨lowerValue, hlower⟩, ⟨upperValue, hupper⟩, -⟩ := hknown
    refine ⟨.between value lowerValue upperValue negated, ?_⟩
    rw [TableContext.predicate, hvalue, hlower, hupper]
    rfl

end TableContext

/-! ## Planning what was prepared -/

theorem Request.Condition.Yields.isShaped {catalog : Catalog} {root : Root}
    {part : Request.Condition} {made : Predicate} (hyields : part.Yields catalog root made) :
    made.IsShaped := by
  induction hyields with
  | single connective hpart ih => exact ih
  | join id hparts hpart ihparts ihpart => exact ⟨ihparts, ihpart⟩
  | negation id hpart ih => exact ih
  | comparison id hleft hoperator hright hshape => exact hshape
  | nullness id negated hvalue => trivial
  | between id negated hvalue hlower hupper => trivial

namespace Statement

/-- The operators of a statement, from left to right, with the negations above each of them. -/
def placedOperators (statement : Statement) : List PlacedOperator :=
  (statement.predicate.map fun predicate => predicate.placedOperators 0).getD []

/-- The operators of a statement, from left to right. -/
def operators (statement : Statement) : List Operator :=
  (statement.predicate.map Predicate.operators).getD []

/-- A statement over a known entity and known values, of the right shape. -/
structure IsChecked (statement : Statement) (configuration : Configuration) : Prop where
  entity : ∃ entity, configuration.catalog.entity statement.root.entity = .ok entity
  known : ∀ leaf ∈ statement.leaves, (statement.tableContext configuration).Knows leaf
  shaped : ∀ predicate ∈ statement.predicate, predicate.IsShaped

theorem operators_applied (strategy : NegationStrategy) (statement : Statement) :
    (strategy.applied statement).operators =
      statement.placedOperators.map strategy.operatorOf := by
  obtain ⟨root, predicate⟩ := statement
  cases predicate with
  | none => cases strategy <;> rfl
  | some predicate =>
    cases strategy with
    | wrap => exact predicate.operators_eq_map 0
    | distribute => exact predicate.operators_distributed 0

variable {statement : Statement} {configuration : Configuration}

theorem IsChecked.applied (hchecked : statement.IsChecked configuration)
    (strategy : NegationStrategy) : (strategy.applied statement).IsChecked configuration := by
  cases strategy with
  | wrap => exact hchecked
  | distribute =>
    refine ⟨hchecked.entity, ?_, ?_⟩
    · rw [leaves_applied]
      exact hchecked.known
    · intro result hresult
      obtain ⟨predicate, hpredicate, rfl⟩ := Option.map_eq_some_iff.mp hresult
      exact Predicate.isShaped_distributed (hchecked.shaped predicate hpredicate) false

/-- A checked statement is refused for its operators only. -/
theorem IsChecked.refuses_planned (hchecked : statement.IsChecked configuration) :
    configuration.dialect.Refuses statement.operators (statement.planned configuration) := by
  obtain ⟨root, predicate⟩ := statement
  obtain ⟨⟨entity, hentity⟩, hknown, hshaped⟩ := hchecked
  have hselect : configuration.dialect.Refuses (operators ⟨root, predicate⟩)
      (select ⟨root, predicate⟩ configuration) := by
    rw [select, hentity]
    cases predicate with
    | none => exact .of_eq_ok rfl
    | some predicate =>
      exact (TableContext.refuses_predicate hknown (hshaped predicate rfl)).map _
  exact hselect.map _

end Statement

theorem Request.Yields.isChecked {request : Request} {configuration : Configuration}
    {statement : Statement} (hwellFormed : request.IsWellFormed configuration.catalog)
    (hyields : request.Yields configuration.catalog statement) :
    statement.IsChecked configuration := by
  have htyped := hyields.isTyped
  obtain ⟨root, predicate⟩ := statement
  obtain ⟨rfl, hpart⟩ := hyields
  refine ⟨Catalog.exists_entity_eq_ok_iff.mpr hwellFormed.entity_isSome, ?_, ?_⟩
  · cases predicate with
    | none => exact List.forall_mem_nil _
    | some predicate =>
      intro leaf hleaf
      obtain ⟨expected, hexpected⟩ := (htyped predicate rfl).exists_of_mem_leaves leaf hleaf
      exact TableContext.knows_of_isTyped hexpected
  · rintro predicate ⟨⟩
    obtain ⟨entity, aliasName, part⟩ := request
    cases hpart with
    | some hpart => exact hpart.isShaped

namespace PreparedQuery

/-- A plan is refused for the operators of the prepared tree only, as the configuration wants them
to be. -/
theorem refuses_plan {configuration : Configuration} {request : Request}
    {prepared : PreparedQuery} {start middle next : NodeId}
    (hprepare : configuration.prepare request start = .ok (prepared, middle))
    (hlater : middle ≤ next) :
    configuration.dialect.Refuses
      (prepared.statement.placedOperators.map configuration.negationStrategy.operatorOf)
      (prepared.plan next) := by
  obtain ⟨last, hplan⟩ := exists_plan_eq_of_prepare hprepare hlater
  obtain ⟨analysed, hanalysed, rfl⟩ := Configuration.prepare_eq_ok_iff.mp hprepare
  obtain ⟨hwellFormed, hyields⟩ :=
    (request.succeedsIff_analyse configuration.catalog start).2 analysed _ hanalysed
  have hchecked := (hyields.isChecked hwellFormed).applied configuration.negationStrategy
  rw [hplan, ← Statement.operators_applied]
  exact hchecked.refuses_planned.map _

/-- Planning fails exactly for BigQuery and a comparison without regard to case. It then names what
is left of the operator of the leftmost one, and it fails in no other way. -/
theorem plan_fails_iff {configuration : Configuration} {request : Request}
    {prepared : PreparedQuery} {start middle next : NodeId}
    (hprepare : configuration.prepare request start = .ok (prepared, middle))
    (hlater : middle ≤ next) :
    ((∃ error, prepared.plan next = .error error) ↔
      configuration.dialect = .bigQuery ∧
        ∃ placed ∈ prepared.statement.placedOperators, placed.operator.ignoresCase) ∧
    ∀ error, prepared.plan next = .error error →
      ∃ placed,
        prepared.statement.placedOperators.find? (fun placed => placed.operator.ignoresCase) =
            some placed ∧
          error = .notSupported
            (.operatorInDialect (configuration.negationStrategy.operatorOf placed)) := by
  have hrefuses := refuses_plan hprepare hlater
  rw [Dialect.Refuses, NegationStrategy.find?_map_operatorOf] at hrefuses
  generalize configuration.dialect = dialect at hrefuses ⊢
  cases dialect with
  | postgres =>
    obtain ⟨plan, hplan⟩ : ∃ plan, prepared.plan next = .ok plan := hrefuses
    simp [hplan]
  | bigQuery =>
    cases hfound : prepared.statement.placedOperators.find? fun placed =>
        placed.operator.ignoresCase with
    | none =>
      rw [hfound] at hrefuses
      obtain ⟨plan, hplan⟩ : ∃ plan, prepared.plan next = .ok plan := hrefuses
      have hnone := List.find?_eq_none.mp hfound
      simpa [hplan] using hnone
    | some placed =>
      rw [hfound] at hrefuses
      have hplan : prepared.plan next = .error _ := hrefuses
      have hmem : placed ∈ prepared.statement.placedOperators := List.mem_of_find?_eq_some hfound
      have hignores : placed.operator.ignoresCase := by simpa using List.find?_some hfound
      refine ⟨iff_of_true ⟨_, hplan⟩ ⟨rfl, placed, hmem, hignores⟩, fun error herror => ?_⟩
      obtain rfl := Except.error.inj (hplan.symm.trans herror)
      exact ⟨placed, rfl, rfl⟩

end PreparedQuery

/-- A negated pattern without regard to case, after one that is none and before another one. -/
def patternsRequest : Request where
  entity := "user"
  aliasName := "u"
  predicate := some (.not (.and
    [.comparison (.parameter (.named "name")) .like (.scalar (.string "A%")),
      .comparison (.parameter (.named "name")) .ilike (.scalar (.string "%b")),
      .not (.comparison (.parameter (.positional 0)) .ilike (.parameter (.positional 1)))]))

/-- What is refused is the complement of the operator that was asked for. -/
theorem plan_fails_patternsRequest :
    ∃ prepared middle,
      { usersConfiguration with dialect := .bigQuery }.prepare patternsRequest 0 =
          .ok (prepared, middle) ∧
        (∃ error, prepared.plan middle = .error error) ∧
          ∀ error, prepared.plan middle = .error error →
            error = .notSupported (.operatorInDialect .notIlike) := by
  have hprepare : { usersConfiguration with dialect := .bigQuery }.prepare patternsRequest 0 =
      .ok (_, _) := rfl
  obtain ⟨hfails, hnames⟩ := PreparedQuery.plan_fails_iff hprepare (le_refl _)
  refine ⟨_, _, hprepare, hfails.mpr ⟨rfl, ⟨.ilike, 1⟩, ?_, rfl⟩, fun error herror => ?_⟩
  · exact List.mem_cons_of_mem _ (List.mem_cons_self ..)
  · obtain ⟨placed, hfound, rfl⟩ := hnames error herror
    obtain rfl : ⟨.ilike, 1⟩ = placed := Option.some.inj hfound
    simp [NegationStrategy.operatorOf, usersConfiguration, Operator.complement]

end QueryModel
