import QueryModel.Planning.Restriction
import QueryModel.Query.Copy
import QueryModel.Query.Hql
import QueryModel.Query.Negation
import QueryModel.Query.Parameters
import QueryModel.Sql.Printer

/-! # Plans

A request is prepared once, by analysing it, and planned any number of times. Every plan is made
from a copy of the prepared tree.
-/

namespace QueryModel

/-- What is run for a query. -/
structure Plan where
  /-- The entity that is selected from. -/
  rootEntity : String
  /-- The query as HQL. -/
  hql : String
  /-- The parameters to supply, in the order in which they are first met. -/
  parameters : List Parameter
  query : Sql.Select

/-- A request that has been analysed under a configuration. -/
structure PreparedQuery where
  configuration : Configuration
  statement : Statement

/-- Analyse a request under a configuration. -/
def Configuration.prepare (configuration : Configuration) (request : Request) :
    Building PlanError PreparedQuery := do
  let statement ← request.analyse configuration.catalog
  return ⟨configuration, statement⟩

/-- Make copies under a context of their own. -/
def Building.ofCopying {ε α : Type} (copying : Copying α) : Building ε α := fun next =>
  let (copy, state) := copying ⟨next, .empty⟩
  .ok (copy, state.next)

/-- Push down the negations of a predicate. -/
def Building.pushDown {ε : Type} (predicate : Predicate) : Building ε Predicate := fun next =>
  .ok (predicate.pushDown next)

namespace NegationStrategy

/-- A statement with its negations as a strategy wants them. -/
def applyTo {ε : Type} (strategy : NegationStrategy) (statement : Statement) :
    Building ε Statement :=
  match strategy, statement.predicate with
  | .wrap, _ => return statement
  | .distribute, none => return statement
  | .distribute, some predicate =>
    return { statement with predicate := some (← Building.pushDown predicate) }

end NegationStrategy

/-- The selection that a statement becomes. -/
def Statement.select (statement : Statement) (configuration : Configuration) :
    Except PlanError Sql.Select := do
  let entity ← configuration.catalog.entity statement.root.entity
  let context : TableContext :=
    ⟨configuration.catalog, configuration.dialect, statement.root, statement.root.aliasName⟩
  let restriction ←
    match statement.predicate with
    | none => pure Sql.Expression.always
    | some predicate => context.predicate predicate
  return ⟨some ⟨.stored entity.schemaName entity.tableName, statement.root.aliasName⟩, restriction⟩

/-- Plan one run of a query. -/
def PreparedQuery.plan (prepared : PreparedQuery) : Building PlanError Plan := do
  let copy ← Building.ofCopying prepared.statement.copy
  let statement ← prepared.configuration.negationStrategy.applyTo copy
  let parameters := (statement.predicate.map Predicate.parameters).getD []
  let query ← Building.check (statement.select prepared.configuration)
  return ⟨statement.root.entity, statement.hql, parameters, query⟩

/-- Prepare a request and plan one run of it. -/
def Configuration.plan (configuration : Configuration) (request : Request) :
    Building PlanError Plan := do
  let prepared ← configuration.prepare request
  prepared.plan

end QueryModel
