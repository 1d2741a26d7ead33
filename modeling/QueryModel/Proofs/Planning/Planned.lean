import QueryModel.Proofs.Planning.Analysis
import QueryModel.Proofs.Planning.Passes
import QueryModel.Proofs.Planning.Restriction

/-! # What is planned

A plan of a request is the plan of one statement: a tree of a store that means what the request was
analysed into. What is proved of plans is proved of that statement.
-/

namespace QueryModel

/-- What a statement is translated under. -/
def Statement.tableContext (statement : Statement) (configuration : Configuration) : TableContext :=
  ⟨configuration.catalog, configuration.dialect, statement.root, statement.root.aliasName⟩

/-- Where a statement is translated, it selects from the table of its root what its predicate
becomes. -/
theorem Statement.select_eq_ok {statement : Statement} {configuration : Configuration}
    {select : Sql.Select} (hselect : statement.select configuration = .ok select) :
    ∃ entity, configuration.catalog.entity statement.root.entity = .ok entity ∧
      select.source =
        some ⟨.stored entity.schemaName entity.tableName, statement.root.aliasName⟩ ∧
      (statement.tableContext configuration).TranslatesOptional statement.predicate
        select.restriction := by
  obtain ⟨entity, hentity, hselect⟩ := Except.bind_eq_ok.mp hselect
  refine ⟨entity, hentity, ?_⟩
  dsimp only at hselect
  split at hselect
  · next hnone =>
    cases hselect
    rw [hnone]
    exact ⟨rfl, .none⟩
  · next predicate hpredicate =>
    obtain ⟨restriction, hrestriction, ⟨⟩⟩ := Except.bind_eq_ok.mp hselect
    rw [hpredicate]
    exact ⟨rfl, .some (TableContext.translates_of_predicate_eq_ok hrestriction)⟩

/-- `plan.IsOf configuration statement`: the plan tells how the statement is run. -/
structure Plan.IsOf (plan : Plan) (configuration : Configuration) (statement : Statement) :
    Prop where
  rootEntity_eq : plan.rootEntity = statement.root.entity
  hql_eq : plan.hql = statement.hql
  parameters_eq : plan.parameters = (statement.predicate.map Predicate.parameters).getD []
  select_eq : statement.select configuration = .ok plan.query

/-- A prepared query is planned as a statement that means what was prepared. -/
theorem PreparedQuery.extends_plan {store : NodeStore} (prepared : PreparedQuery)
    (hprepared : ∀ predicate ∈ prepared.statement.predicate, Node.predicate predicate ∈ store) :
    Building.Extends prepared.plan store fun plan larger =>
      ∃ statement : Statement,
        (∀ predicate ∈ statement.predicate, Node.predicate predicate ∈ larger) ∧
          statement.Refines prepared.statement ∧
            plan.IsOf prepared.configuration statement := by
  refine (Building.extends_ofCopying (Statement.extendsBy_copy hprepared)).bind
    fun copy larger _ ⟨hcopy, halike⟩ => ?_
  refine (NegationStrategy.extends_applyTo _ hcopy).bind
    fun statement larger' _ ⟨hmem, hstatement⟩ => ?_
  refine (Building.extends_check _).bind fun query largest hle hquery => ExtendsIfOk.pure ?_
  exact ⟨statement, fun predicate hpredicate => NodeStore.mem_of_le hle (hmem predicate hpredicate),
    hstatement.trans (.of_anonymous_eq halike), rfl, rfl, rfl, hquery⟩

/-- A request is prepared by analysing it. -/
theorem Configuration.prepare_eq_ok_iff {configuration : Configuration} {request : Request}
    {prepared : PreparedQuery} {start later : NodeId} :
    configuration.prepare request start = .ok (prepared, later) ↔
      ∃ statement, request.analyse configuration.catalog start = .ok (statement, later) ∧
        prepared = ⟨configuration, statement⟩ := by
  constructor
  · intro hprepare
    obtain ⟨⟨statement, last⟩, hanalysed, ⟨⟩⟩ := Except.bind_eq_ok.mp hprepare
    exact ⟨statement, hanalysed, rfl⟩
  · rintro ⟨statement, hanalysed, rfl⟩
    exact Except.bind_eq_ok.mpr ⟨_, hanalysed, rfl⟩

/-- `configuration.Plans request prepared plan`: the request was prepared, and the plan was made at
any time after that. -/
def Configuration.Plans (configuration : Configuration) (request : Request)
    (prepared : PreparedQuery) (plan : Plan) : Prop :=
  ∃ start middle next last, configuration.prepare request start = .ok (prepared, middle) ∧
    middle ≤ next ∧ prepared.plan next = .ok (plan, last)

namespace Configuration.Plans

variable {configuration : Configuration} {request : Request} {prepared : PreparedQuery}
  {plan : Plan}

/-- A plan of a request is a plan of a statement that means what was prepared, over the root of the
request. -/
theorem exists_statement (hplan : configuration.Plans request prepared plan) :
    ∃ (statement : Statement) (store : NodeStore),
      (∀ predicate ∈ statement.predicate, Node.predicate predicate ∈ store) ∧
        statement.Refines prepared.statement ∧
          statement.root = ⟨request.entity, request.aliasName⟩ ∧
            plan.IsOf configuration statement := by
  obtain ⟨start, middle, next, last, hprepared, hlater, hplan⟩ := hplan
  obtain ⟨⟨analysed, later⟩, hanalysed, ⟨⟩⟩ := Except.bind_eq_ok.mp hprepared
  obtain ⟨store, -, rfl, hroot, hmem⟩ :=
    request.extends_analyse configuration.catalog (.empty start) start rfl _ _ hanalysed
  have hlaterMem : ∀ predicate ∈ analysed.predicate,
      Node.predicate predicate ∈ store.elapse hlater := hmem
  obtain ⟨larger, -, -, statement, hmem', hstatement, hisOf⟩ :=
    PreparedQuery.extends_plan ⟨configuration, analysed⟩ hlaterMem next rfl _ _ hplan
  exact ⟨statement, larger, hmem', hstatement, hstatement.root_eq.trans hroot, hisOf⟩

end Configuration.Plans

end QueryModel
