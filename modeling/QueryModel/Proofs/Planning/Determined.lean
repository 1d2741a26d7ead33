import QueryModel.Proofs.Planning.Planned
import QueryModel.Proofs.Query.Distributed
import QueryModel.Proofs.Query.Parameters

/-! # Plans are determined

A plan depends on the prepared tree only: neither on the identities of its nodes, nor on what was
built before. Planning therefore comes down to translating one tree, given without identities, and
fails exactly where that fails.
-/

namespace QueryModel

/-! ## Identities do not enter a plan -/

namespace TableContext

variable (context : TableContext)

theorem comparison_anonymous (left : Sql.Expression) (operator : Operator) (right : Expression) :
    context.comparison left operator right.anonymous = context.comparison left operator right := by
  cases right with
  | scalar node => rfl
  | list values =>
    have hitems : values.anonymous.elements.mapM context.scalar =
        values.elements.mapM context.scalar := by
      rw [ValueList.anonymous, List.mapM_map]
      rfl
    simp only [Expression.anonymous, comparison, hitems]

theorem predicate_anonymous (predicate : Predicate) :
    context.predicate predicate.anonymous = context.predicate predicate := by
  induction predicate with
  | comparison id left operator right =>
    simp only [Predicate.anonymous, TableContext.predicate, comparison_anonymous]
    rfl
  | junction id left connective right ihleft ihright =>
    simp only [Predicate.anonymous, TableContext.predicate, ihleft, ihright]
  | negation id inner ih => simp only [Predicate.anonymous, TableContext.predicate, ih]
  | nullness id operand negated => rfl
  | between id operand lower upper negated => rfl

end TableContext

namespace Statement

/-- The plan that runs a statement. -/
def planned (statement : Statement) (configuration : Configuration) : Except PlanError Plan := do
  let query ← statement.select configuration
  let parameters := (statement.predicate.map Predicate.parameters).getD []
  return ⟨statement.root.entity, statement.hql, parameters, query⟩

theorem select_anonymous (statement : Statement) (configuration : Configuration) :
    statement.anonymous.select configuration = statement.select configuration := by
  obtain ⟨root, predicate⟩ := statement
  cases predicate with
  | none => rfl
  | some predicate =>
    simp only [anonymous, select, Option.map_some, TableContext.predicate_anonymous]

theorem hql_anonymous (statement : Statement) : statement.anonymous.hql = statement.hql := by
  obtain ⟨root, predicate⟩ := statement
  cases predicate with
  | none => rfl
  | some predicate => simp only [anonymous, hql, Option.map_some, predicate.alike_anonymous.hql_eq]

theorem planned_anonymous (statement : Statement) (configuration : Configuration) :
    statement.anonymous.planned configuration = statement.planned configuration := by
  have hparameters : statement.anonymous.predicate.map Predicate.parameters =
      statement.predicate.map Predicate.parameters := by
    rw [anonymous, Option.map_map]
    exact congrArg (statement.predicate.map ·)
      (funext fun predicate => predicate.alike_anonymous.collect_eq [])
  unfold planned
  rw [select_anonymous, hql_anonymous, hparameters]
  rfl

end Statement

/-! ## Planning -/

theorem Building.bind_of_eq_ok {ε α β : Type} {first : Building ε α} {rest : α → Building ε β}
    {next later : NodeId} {value : α} (hfirst : first next = .ok (value, later)) :
    (first >>= rest) next = rest value later := by
  change (first next >>= fun result => rest result.1 result.2) = rest value later
  rw [hfirst]
  rfl

/-- Copying never fails. -/
theorem Statement.exists_ofCopying_copy_eq {ε : Type} {store : NodeStore} {statement : Statement}
    (hstatement : ∀ predicate ∈ statement.predicate, Node.predicate predicate ∈ store) :
    ∃ copy, ∃ larger : NodeStore,
      (Building.ofCopying statement.copy : Building ε Statement) store.next =
          .ok (copy, larger.next) ∧
        (∀ predicate ∈ copy.predicate, Node.predicate predicate ∈ larger) ∧
          copy.anonymous = statement.anonymous := by
  have hcopying : (Building.ofCopying statement.copy : Building ε Statement) store.next =
      .ok (_, _) := rfl
  obtain ⟨larger, -, hnext, hmem, hcopy⟩ :=
    Building.extends_ofCopying (Statement.extendsBy_copy hstatement) _ rfl _ _ hcopying
  rw [← hnext] at hcopying
  exact ⟨_, larger, hcopying, hmem, hcopy⟩

namespace NegationStrategy

/-- The statement with its negations as a strategy wants them, without new nodes. -/
def applied (strategy : NegationStrategy) (statement : Statement) : Statement :=
  match strategy with
  | .wrap => statement
  | .distribute =>
    { statement with
      predicate := statement.predicate.map fun predicate => predicate.distributed false }

theorem anonymous_applied (strategy : NegationStrategy) (statement : Statement) :
    (strategy.applied statement).anonymous = strategy.applied statement.anonymous := by
  obtain ⟨root, predicate⟩ := statement
  cases strategy with
  | wrap => rfl
  | distribute =>
    simp only [applied, Statement.anonymous, Option.map_map, Function.comp_def,
      Predicate.anonymous_distributed]

/-- Applying a strategy never fails. -/
theorem exists_applyTo_eq {ε : Type} {store : NodeStore} (strategy : NegationStrategy)
    {statement : Statement}
    (hstatement : ∀ predicate ∈ statement.predicate, Node.predicate predicate ∈ store) :
    ∃ result later, (strategy.applyTo statement : Building ε Statement) store.next =
        .ok (result, later) ∧
      result.anonymous = (strategy.applied statement).anonymous := by
  obtain ⟨root, predicate⟩ := statement
  cases strategy with
  | wrap => exact ⟨_, _, rfl, rfl⟩
  | distribute =>
    cases predicate with
    | none => exact ⟨_, _, rfl, rfl⟩
    | some predicate =>
      obtain ⟨-, -, -, -, hpushed⟩ :=
        Building.extends_pushDown (ε := ε) (hstatement predicate rfl) _ rfl _ _ rfl
      refine ⟨_, _, rfl, ?_⟩
      simp only [applied, Statement.anonymous, Option.map_some, hpushed.anonymous_eq]

end NegationStrategy

/-- Planning runs the prepared statement, with its negations as the configuration wants them, and
fails where that statement cannot be run, once the statement is copied into a store. -/
theorem PreparedQuery.exists_plan_eq_of_copy {copies : NodeStore} (prepared : PreparedQuery)
    {copy : Statement} {next : NodeId}
    (hcopying : (Building.ofCopying prepared.statement.copy : Building PlanError Statement) next =
      .ok (copy, copies.next))
    (hmem : ∀ predicate ∈ copy.predicate, Node.predicate predicate ∈ copies)
    (hcopy : copy.anonymous = prepared.statement.anonymous) :
    ∃ last, prepared.plan next = Except.map (fun plan => (plan, last))
      ((prepared.configuration.negationStrategy.applied prepared.statement).planned
        prepared.configuration) := by
  obtain ⟨result, last, happly, hresult⟩ :=
    prepared.configuration.negationStrategy.exists_applyTo_eq (ε := PlanError) hmem
  have hsame : result.planned prepared.configuration =
      (prepared.configuration.negationStrategy.applied prepared.statement).planned
        prepared.configuration := by
    rw [← Statement.planned_anonymous, hresult, NegationStrategy.anonymous_applied, hcopy,
      ← NegationStrategy.anonymous_applied, Statement.planned_anonymous]
  refine ⟨last, ?_⟩
  unfold PreparedQuery.plan
  rw [Building.bind_of_eq_ok hcopying, Building.bind_of_eq_ok happly, ← hsame]
  unfold Statement.planned Building.check
  cases result.select prepared.configuration with
  | error error => rfl
  | ok query => rfl

/-- A statement of a store is planned at the end of the store as it is copied there. -/
theorem PreparedQuery.exists_plan_eq {store : NodeStore} (prepared : PreparedQuery)
    (hprepared : ∀ predicate ∈ prepared.statement.predicate, Node.predicate predicate ∈ store) :
    ∃ last, prepared.plan store.next = Except.map (fun plan => (plan, last))
      ((prepared.configuration.negationStrategy.applied prepared.statement).planned
        prepared.configuration) := by
  obtain ⟨copy, larger, hcopying, hmem, hcopy⟩ :=
    Statement.exists_ofCopying_copy_eq (ε := PlanError) hprepared
  exact prepared.exists_plan_eq_of_copy hcopying hmem hcopy

/-- Whenever a prepared request is planned, the prepared statement is run. -/
theorem PreparedQuery.exists_plan_eq_of_prepare {configuration : Configuration} {request : Request}
    {prepared : PreparedQuery} {start middle next : NodeId}
    (hprepare : configuration.prepare request start = .ok (prepared, middle))
    (hlater : middle ≤ next) :
    ∃ last, prepared.plan next = Except.map (fun plan => (plan, last))
      ((configuration.negationStrategy.applied prepared.statement).planned configuration) := by
  obtain ⟨analysed, hanalysed, rfl⟩ := Configuration.prepare_eq_ok_iff.mp hprepare
  obtain ⟨store, -, rfl, -, hmem⟩ :=
    request.extends_analyse configuration.catalog (.empty start) start rfl _ _ hanalysed
  have hlaterMem : ∀ predicate ∈ analysed.predicate,
      Node.predicate predicate ∈ store.elapse hlater := hmem
  exact exists_plan_eq ⟨configuration, analysed⟩ hlaterMem

/-- A request that was prepared has a plan if the prepared statement has one. -/
theorem Configuration.Plans.of_planned {configuration : Configuration} {request : Request}
    {prepared : PreparedQuery} {plan : Plan} (start : NodeId) {middle : NodeId}
    (hprepare : configuration.prepare request start = .ok (prepared, middle))
    (hplanned : (configuration.negationStrategy.applied prepared.statement).planned configuration =
      .ok plan) : configuration.Plans request prepared plan := by
  obtain ⟨last, hplan⟩ := PreparedQuery.exists_plan_eq_of_prepare hprepare (Nat.le_refl _)
  rw [hplanned] at hplan
  exact ⟨start, middle, middle, last, hprepare, Nat.le_refl _, hplan⟩

/-- A plan of a request runs the prepared statement, with its negations as the configuration wants
them. -/
theorem Configuration.Plans.planned_eq {configuration : Configuration} {request : Request}
    {prepared : PreparedQuery} {plan : Plan}
    (hplan : configuration.Plans request prepared plan) :
    (configuration.negationStrategy.applied prepared.statement).planned configuration =
      .ok plan := by
  obtain ⟨start, middle, next, last, hprepare, hlater, hplan⟩ := hplan
  obtain ⟨last', hplanned⟩ := PreparedQuery.exists_plan_eq_of_prepare hprepare hlater
  rw [hplan] at hplanned
  cases hrun : (configuration.negationStrategy.applied prepared.statement).planned configuration with
  | error error => rw [hrun] at hplanned; cases hplanned
  | ok run => rw [hrun] at hplanned; cases hplanned; rfl

/-! ## A configuration -/

/-- Users, whose age may be missing and whose number may not. -/
def usersConfiguration : Configuration where
  catalog :=
    ⟨.ofList [("user", ⟨"public", "users", .ofList
      [("age", ⟨"age_years", .integer, true⟩), ("id", ⟨"user_id", .bigint, false⟩)]⟩)]⟩
  dialect := .postgres
  negationStrategy := .distribute

end QueryModel
