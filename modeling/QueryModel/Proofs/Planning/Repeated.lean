import QueryModel.Proofs.Planning.Determined
import QueryModel.Proofs.Query.CopyStore

/-! # Planning again and again

A prepared query is planned any number of times, while other queries are prepared and planned and
identities are given out to others. Main statement: every time the outcome is the same, whatever the
next identity is by then, and what was prepared stays as it was.
-/

namespace QueryModel

/-- The statement with its predicate pushed down. -/
def Statement.pushedDown (statement : Statement) (next : NodeId) : Statement :=
  { statement with
    predicate := statement.predicate.map fun predicate => (predicate.pushDown next).1 }

/-- The statement is pushed down into the tree that the strategy asks for, up to identities. -/
theorem Statement.hql_pushedDown {store : NodeStore} {statement : Statement}
    (hstatement : ∀ predicate ∈ statement.predicate, Node.predicate predicate ∈ store)
    {next : NodeId}
    (hnext : ∀ predicate ∈ statement.predicate, ∀ node ∈ (Node.predicate predicate).subnodes,
      node.id < next) :
    (statement.pushedDown next).hql = (NegationStrategy.distribute.applied statement).hql := by
  obtain ⟨root, predicate⟩ := statement
  cases predicate with
  | none => rfl
  | some predicate =>
    obtain ⟨-, -, -, -, hpushed⟩ := predicate.exists_store_pushDown
      (store.below (hstatement predicate rfl) next (hnext predicate rfl)) (Node.mem_subnodes_self _)
    rw [← hql_anonymous, ← hql_anonymous (NegationStrategy.applied _ _)]
    simp only [pushedDown, NegationStrategy.applied, anonymous, Option.map_some]
    rw [← hpushed.anonymous_eq]
    rfl

namespace PreparedQuery

/-- A request was prepared, at any time. -/
def IsPrepared (prepared : PreparedQuery) : Prop :=
  ∃ request start later, prepared.configuration.prepare request start = .ok (prepared, later)

/-- What comes of planning a prepared query. -/
def outcome (prepared : PreparedQuery) : Except PlanError Plan :=
  (prepared.configuration.negationStrategy.applied prepared.statement).planned
    prepared.configuration

theorem IsPrepared.exists_store {prepared : PreparedQuery} (hprepared : prepared.IsPrepared) :
    ∃ store : NodeStore,
      ∀ predicate ∈ prepared.statement.predicate, Node.predicate predicate ∈ store := by
  obtain ⟨request, start, later, hprepare⟩ := hprepared
  obtain ⟨analysed, hanalysed, hsame⟩ := Configuration.prepare_eq_ok_iff.mp hprepare
  obtain ⟨store, -, -, -, hmem⟩ := request.extends_analyse prepared.configuration.catalog
    (.empty start) start rfl _ _ hanalysed
  exact ⟨store, by rw [hsame]; exact hmem⟩

/-- The outcome does not depend on the next identity, only the identity after that does. -/
theorem IsPrepared.exists_plan_eq {prepared : PreparedQuery} (hprepared : prepared.IsPrepared)
    (next : NodeId) :
    ∃ last, prepared.plan next = prepared.outcome.map fun plan => (plan, last) := by
  obtain ⟨store, hmem⟩ := hprepared.exists_store
  obtain ⟨copy, copies, hcopying, hmem', hcopy⟩ :=
    Statement.exists_ofCopying_copy_eq_from (ε := PlanError) hmem next
  exact prepared.exists_plan_eq_of_copy hcopying hmem' hcopy

/-- A plan shows the prepared statement if negations are wrapped, and the statement pushed down if
they are distributed. -/
theorem IsPrepared.hql_eq {prepared : PreparedQuery} (hprepared : prepared.IsPrepared) {plan : Plan}
    (hplan : prepared.outcome = .ok plan) :
    (prepared.configuration.negationStrategy = .wrap → plan.hql = prepared.statement.hql) ∧
      (prepared.configuration.negationStrategy = .distribute → ∀ next,
        (∀ predicate ∈ prepared.statement.predicate,
          ∀ node ∈ (Node.predicate predicate).subnodes, node.id < next) →
        plan.hql = (prepared.statement.pushedDown next).hql) := by
  obtain ⟨store, hmem⟩ := hprepared.exists_store
  obtain ⟨query, -, ⟨⟩⟩ := Except.bind_eq_ok.mp hplan
  constructor
  · intro hwrap
    rw [hwrap]
    rfl
  · intro hdistribute next hnext
    rw [hdistribute]
    exact (Statement.hql_pushedDown hmem hnext).symm

end PreparedQuery

/-! ## Jobs -/

/-- Queries that have been prepared, in this order, and the identity of the next node. -/
structure Planner where
  next : NodeId
  prepared : List PreparedQuery

/-- What is done with queries. -/
inductive Planner.Job where
  | prepare (configuration : Configuration) (request : Request)
  /-- Plan the query that was prepared as the one of this number. -/
  | plan (index : Nat)
  /-- Nodes are made elsewhere; the next identity is then any other one. -/
  | elsewhere (next : NodeId)

/-- A query was planned: which one, and what came of it. -/
structure Planner.Call where
  index : Nat
  outcome : Except PlanError Plan

namespace Planner

/-- Nothing has been prepared. -/
def start (next : NodeId) : Planner := ⟨next, []⟩

/-- Do a job: what was planned, and what is prepared after that. The identities that are used up by
a job that fails can be thought of as given out elsewhere. -/
def take (planner : Planner) : Job → List Call × Planner
  | .prepare configuration request =>
    match configuration.prepare request planner.next with
    | .ok (prepared, next) => ([], ⟨next, planner.prepared ++ [prepared]⟩)
    | .error _ => ([], planner)
  | .plan index =>
    match planner.prepared[index]? with
    | none => ([], planner)
    | some prepared =>
      match prepared.plan planner.next with
      | .ok (plan, next) => ([⟨index, .ok plan⟩], { planner with next := next })
      | .error error => ([⟨index, .error error⟩], planner)
  | .elsewhere next => ([], { planner with next := next })

/-- Do several jobs one after the other. -/
def run (planner : Planner) : List Job → List Call × Planner
  | [] => ([], planner)
  | job :: rest =>
    let (calls, later) := planner.take job
    let (more, last) := later.run rest
    (calls ++ more, last)

/-- Whatever a planner holds was prepared. -/
def IsConsistent (planner : Planner) : Prop :=
  ∀ prepared ∈ planner.prepared, prepared.IsPrepared

theorem run_append (planner : Planner) (before after : List Job) :
    planner.run (before ++ after) =
      ((planner.run before).1 ++ ((planner.run before).2.run after).1,
        ((planner.run before).2.run after).2) := by
  induction before generalizing planner with
  | nil => rfl
  | cons job rest ih => simp only [List.cons_append, run, ih, List.append_assoc]

/-! ### One job -/

section take

variable (planner : Planner) (job : Job)

/-- A job prepares one more query, and makes no call, or leaves what is prepared as it is, and calls
for queries that are prepared only. -/
theorem take_cases :
    (∃ prepared : PreparedQuery, prepared.IsPrepared ∧ (planner.take job).1 = [] ∧
      (planner.take job).2.prepared = planner.prepared ++ [prepared]) ∨
    ((planner.take job).2.prepared = planner.prepared ∧
      ∀ call ∈ (planner.take job).1, ∃ prepared, planner.prepared[call.index]? = some prepared ∧
        call.outcome = (prepared.plan planner.next).map Prod.fst) := by
  cases job with
  | prepare configuration request =>
    simp only [take]
    split
    · next prepared next hprepare =>
      obtain ⟨statement, -, rfl⟩ := Configuration.prepare_eq_ok_iff.mp hprepare
      exact Or.inl ⟨_, ⟨request, _, _, hprepare⟩, rfl, rfl⟩
    · exact Or.inr ⟨rfl, List.forall_mem_nil _⟩
  | plan index =>
    simp only [take]
    split
    · exact Or.inr ⟨rfl, List.forall_mem_nil _⟩
    · next prepared hprepared =>
      split
      · next plan next hplan =>
        exact Or.inr ⟨rfl, List.forall_mem_singleton.mpr ⟨prepared, hprepared, by rw [hplan]; rfl⟩⟩
      · next error hplan =>
        exact Or.inr ⟨rfl, List.forall_mem_singleton.mpr ⟨prepared, hprepared, by rw [hplan]; rfl⟩⟩
  | elsewhere next => exact Or.inr ⟨rfl, List.forall_mem_nil _⟩

variable {planner}

/-- What is prepared stays, as it was and where it was. -/
theorem prepared_take {index : Nat} {prepared : PreparedQuery}
    (hprepared : planner.prepared[index]? = some prepared) :
    (planner.take job).2.prepared[index]? = some prepared := by
  obtain ⟨other, -, -, hlater⟩ | ⟨hlater, -⟩ := planner.take_cases job
  · rw [hlater, List.getElem?_append_left (List.getElem?_eq_some_iff.mp hprepared).1, hprepared]
  · rw [hlater, hprepared]

theorem IsConsistent.take (hplanner : planner.IsConsistent) :
    (planner.take job).2.IsConsistent := by
  unfold IsConsistent
  obtain ⟨other, hother, -, hlater⟩ | ⟨hlater, -⟩ := planner.take_cases job
  · rw [hlater, List.forall_mem_append]
    exact ⟨hplanner, List.forall_mem_singleton.mpr hother⟩
  · rw [hlater]
    exact hplanner

/-- Planning a query that is prepared is a call. -/
theorem IsConsistent.take_plan (hplanner : planner.IsConsistent) {index : Nat}
    {prepared : PreparedQuery} (hprepared : planner.prepared[index]? = some prepared) :
    (planner.take (.plan index)).1 = [⟨index, prepared.outcome⟩] := by
  obtain ⟨last, hplan⟩ :=
    (hplanner prepared (List.mem_of_getElem? hprepared)).exists_plan_eq planner.next
  simp only [Planner.take, hprepared, hplan]
  cases prepared.outcome <;> rfl

/-- A call has the outcome of the query that it plans. -/
theorem IsConsistent.outcome_eq_of_take (hplanner : planner.IsConsistent) {call : Call}
    (hcall : call ∈ (planner.take job).1) :
    ∃ prepared, planner.prepared[call.index]? = some prepared ∧
      call.outcome = prepared.outcome := by
  obtain ⟨-, -, hnone, -⟩ | ⟨-, hcalls⟩ := planner.take_cases job
  · rw [hnone] at hcall
    cases hcall
  · obtain ⟨prepared, hprepared, houtcome⟩ := hcalls call hcall
    obtain ⟨last, hplan⟩ :=
      (hplanner prepared (List.mem_of_getElem? hprepared)).exists_plan_eq planner.next
    refine ⟨prepared, hprepared, ?_⟩
    rw [houtcome, hplan]
    cases prepared.outcome <;> rfl

end take

/-! ### Many jobs -/

section run

variable {planner : Planner} (jobs : List Job)

theorem prepared_run {index : Nat} {prepared : PreparedQuery}
    (hprepared : planner.prepared[index]? = some prepared) :
    (planner.run jobs).2.prepared[index]? = some prepared := by
  induction jobs generalizing planner with
  | nil => exact hprepared
  | cons job rest ih => exact ih (prepared_take job hprepared)

theorem IsConsistent.run (hplanner : planner.IsConsistent) :
    (planner.run jobs).2.IsConsistent := by
  induction jobs generalizing planner with
  | nil => exact hplanner
  | cons job rest ih => exact ih (hplanner.take job)

/-- Every call has the outcome of the query that it plans, which is still there in the end. -/
theorem IsConsistent.outcome_eq (hplanner : planner.IsConsistent) {call : Call}
    (hcall : call ∈ (planner.run jobs).1) :
    ∃ prepared, (planner.run jobs).2.prepared[call.index]? = some prepared ∧
      call.outcome = prepared.outcome := by
  induction jobs generalizing planner with
  | nil => cases hcall
  | cons job rest ih =>
    obtain hcall | hcall := List.mem_append.mp hcall
    · obtain ⟨prepared, hprepared, houtcome⟩ := hplanner.outcome_eq_of_take job hcall
      exact ⟨prepared, prepared_run rest (prepared_take job hprepared), houtcome⟩
    · exact ih (hplanner.take job) hcall

end run

/-- Once a query is prepared it stays as it is, whatever is done before and after, and every call
that plans it has one outcome, one more call included: the same plan, or the same error. The plan
shows the prepared statement if negations are wrapped, and the statement pushed down, from any
identity on that its nodes do not reach, if they are distributed. -/
theorem plan_again (next : NodeId) (before after : List Job) {index : Nat}
    {prepared : PreparedQuery}
    (hprepared : ((start next).run before).2.prepared[index]? = some prepared) :
    ((start next).run (before ++ after)).2.prepared[index]? = some prepared ∧
      ∃ outcome : Except PlanError Plan,
        (∀ call ∈ ((start next).run (before ++ after)).1, call.index = index →
          call.outcome = outcome) ∧
        (((start next).run (before ++ after)).2.take (.plan index)).1 = [⟨index, outcome⟩] ∧
        ∀ plan, outcome = .ok plan →
          (prepared.configuration.negationStrategy = .wrap → plan.hql = prepared.statement.hql) ∧
          (prepared.configuration.negationStrategy = .distribute → ∀ later,
            (∀ predicate ∈ prepared.statement.predicate,
              ∀ node ∈ (Node.predicate predicate).subnodes, node.id < later) →
            plan.hql = (prepared.statement.pushedDown later).hql) := by
  have hstart : (start next).IsConsistent := by simp [IsConsistent, start]
  have hlast : ((start next).run (before ++ after)).2.prepared[index]? = some prepared := by
    rw [run_append]
    exact prepared_run after hprepared
  refine ⟨hlast, prepared.outcome, ?_, (hstart.run _).take_plan hlast, fun plan => ?_⟩
  · rintro call hcall rfl
    obtain ⟨other, hother, houtcome⟩ := hstart.outcome_eq _ hcall
    obtain rfl := Option.some.inj (hlast.symm.trans hother)
    exact houtcome
  · exact (hstart.run before prepared (List.mem_of_getElem? hprepared)).hql_eq

/-- A query is prepared, planned, planned again among nodes with high identities, and once more when
identities start over, after another one was prepared. -/
theorem plan_again_ageQuery :
    let users := { usersConfiguration with negationStrategy := .wrap }
    let young : Request.Condition :=
      .comparison (.column "age" none) .lessThan (.parameter (.named "age"))
    let before := [Job.prepare users ⟨"user", "u", some (.not young)⟩]
    let after := [.plan 0, .elsewhere 1000, .prepare usersConfiguration ⟨"user", "v", none⟩,
      .plan 0, .plan 1, .elsewhere 0, .plan 0]
    ∃ outcome : Except PlanError Plan,
      (∀ call ∈ ((start 0).run (before ++ after)).1, call.index = 0 → call.outcome = outcome) ∧
      (((start 0).run (before ++ after)).2.take (.plan 0)).1 = [⟨0, outcome⟩] ∧
      ∀ plan, outcome = .ok plan → plan.hql = "select u from user u where not u.age < :age" := by
  intro users young before after
  have hprepared : ((start 0).run before).2.prepared[0]? = some _ := rfl
  obtain ⟨-, outcome, hcalls, hlast, hplan⟩ := plan_again 0 before after hprepared
  exact ⟨outcome, hcalls, hlast,
    fun plan houtcome => ((hplan plan houtcome).1 rfl).trans (by decide)⟩

end Planner

end QueryModel
