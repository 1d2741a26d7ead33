import QueryModel.Proofs.Planning.Redaction

/-! # Data never enter the text

Two requests that are the same but for their data cannot be told apart by the texts of their plans.
Main statement: under one configuration, either both can be planned or neither can, the texts of
their statements are the same, and the parameters that go with the texts are the data of each
request, item by item.
-/

namespace QueryModel

theorem Sql.Select.params_explainSql (select : Sql.Select) :
    select.explainSql.params = select.sql.params := by
  rw [explainSql, sql, Buffer.ofPieces, Buffer.ofPieces, Buffer.params_appendAll,
    Buffer.params_appendAll]
  rfl

/-- Requests that are the same but for their data are analysed into statements that are. -/
theorem Request.exists_analyse_eq_of_redacted_eq {request other : Request} {catalog : Catalog}
    {statement : Statement} {start later : NodeId}
    (hsame : request.redacted catalog = other.redacted catalog)
    (hanalysed : request.analyse catalog start = .ok (statement, later)) :
    ∃ otherStatement, other.analyse catalog start = .ok (otherStatement, later) ∧
      statement.redacted = otherStatement.redacted := by
  have hredacted :
      (Statement.redacted <$> other.analyse catalog) start = .ok (statement.redacted, later) := by
    rw [← analyse_redacted, ← hsame, analyse_redacted]
    exact Building.map_eq_ok.mpr ⟨statement, hanalysed, rfl⟩
  obtain ⟨otherStatement, hother, hequal⟩ := Building.map_eq_ok.mp hredacted
  exact ⟨otherStatement, hother, hequal.symm⟩

theorem NegationStrategy.planned_applied_congr (strategy : NegationStrategy)
    (configuration : Configuration) {left right : Statement}
    (hsame : left.anonymous = right.anonymous) :
    (strategy.applied left).planned configuration =
      (strategy.applied right).planned configuration := by
  rw [← Statement.planned_anonymous, anonymous_applied, hsame, ← anonymous_applied,
    Statement.planned_anonymous]

namespace Configuration

variable {configuration : Configuration} {request other : Request}

/-- A request has only one plan under a configuration. -/
theorem Plans.plan_unique {prepared otherPrepared : PreparedQuery} {plan otherPlan : Plan}
    (hplan : configuration.Plans request prepared plan)
    (hother : configuration.Plans request otherPrepared otherPlan) : plan = otherPlan := by
  have hplanned := hplan.planned_eq
  rw [configuration.negationStrategy.planned_applied_congr configuration
    (hplan.anonymous_eq hother rfl), hother.planned_eq] at hplanned
  exact (Except.ok.inj hplanned).symm

/-- Whatever was built before, a request that has a plan is prepared and planned. -/
theorem exists_plan_iff (configuration : Configuration) (request : Request) (start : NodeId) :
    (∃ plan last, configuration.plan request start = .ok (plan, last)) ↔
      ∃ prepared plan, configuration.Plans request prepared plan := by
  constructor
  · rintro ⟨plan, last, hplan⟩
    obtain ⟨prepared, middle, hprepare, hplan⟩ := Building.bind_eq_ok.mp hplan
    exact ⟨prepared, plan, start, middle, middle, last, hprepare, Nat.le_refl _, hplan⟩
  · rintro ⟨prepared, plan, hplan⟩
    have hplanned := hplan.planned_eq
    obtain ⟨otherStart, middle, -, -, hprepare, -, -⟩ := hplan
    obtain ⟨analysed, hanalysed, rfl⟩ := prepare_eq_ok_iff.mp hprepare
    rcases request.agrees_analyse configuration.catalog otherStart start with
      ⟨error, herror, -⟩ | ⟨left, right, _, later, hleft, hright, hsame⟩
    · rw [hanalysed] at herror
      cases herror
    · rw [hanalysed] at hleft
      cases hleft
      rw [configuration.negationStrategy.planned_applied_congr configuration hsame] at hplanned
      have hprepared := prepare_eq_ok_iff.mpr ⟨right, hright, rfl⟩
      obtain ⟨last, hrun⟩ :=
        PreparedQuery.exists_plan_eq_of_prepare hprepared (Nat.le_refl later)
      rw [hplanned] at hrun
      exact ⟨plan, last, Building.bind_eq_ok.mpr ⟨_, later, hprepared, hrun⟩⟩

/-- Requests that are the same but for their data have plans that are. -/
theorem Plans.exists_of_redacted_eq {prepared : PreparedQuery} {plan : Plan}
    (hsame : request.redacted configuration.catalog = other.redacted configuration.catalog)
    (hplan : configuration.Plans request prepared plan) :
    ∃ otherPrepared otherPlan, configuration.Plans other otherPrepared otherPlan ∧
      plan.query.redacted = otherPlan.query.redacted := by
  have hplanned := hplan.planned_eq
  obtain ⟨start, middle, -, -, hprepare, -, -⟩ := hplan
  obtain ⟨analysed, hanalysed, rfl⟩ := prepare_eq_ok_iff.mp hprepare
  obtain ⟨otherAnalysed, hother, hredacted⟩ :=
    Request.exists_analyse_eq_of_redacted_eq hsame hanalysed
  have happlied : (configuration.negationStrategy.applied analysed).redacted =
      (configuration.negationStrategy.applied otherAnalysed).redacted := by
    rw [NegationStrategy.redacted_applied, hredacted, ← NegationStrategy.redacted_applied]
  obtain ⟨otherPlan, hotherPlanned, hquery⟩ :=
    Statement.exists_planned_eq_of_redacted_eq happlied hplanned
  have hotherPrepare := prepare_eq_ok_iff.mpr ⟨otherAnalysed, hother, rfl⟩
  exact ⟨_, otherPlan, .of_planned start hotherPrepare hotherPlanned, hquery⟩

/-- The parameters of a plan are the data of its request, in order. -/
theorem Plans.params_eq_data {prepared : PreparedQuery} {plan : Plan}
    (hplan : configuration.Plans request prepared plan) :
    plan.query.sql.params = request.data configuration.catalog := by
  rw [hplan.suppliesTo.params_eq]
  obtain ⟨start, middle, -, -, hprepare, -, -⟩ := hplan
  obtain ⟨analysed, hanalysed, rfl⟩ := prepare_eq_ok_iff.mp hprepare
  have hyields : request.Yields configuration.catalog analysed :=
    (request.succeedsIff_analyse configuration.catalog).made_of_eq_ok hanalysed
  exact hyields.filterMap_param?

end Configuration

/-- `plan.Carries data`: the data go with the text of the plan's statement, and with the text that
asks how it would be run. -/
structure Plan.Carries (plan : Plan) (data : List Sql.Param) : Prop where
  params_eq : plan.query.sql.params = data
  explainParams_eq : plan.query.explainSql.params = data

/-- `plan.SharesTexts other`: the statements of the plans have one text, and so have those that ask
how they would be run. -/
structure Plan.SharesTexts (plan other : Plan) : Prop where
  text_eq : plan.query.sql.text = other.query.sql.text
  explainText_eq : plan.query.explainSql.text = other.query.explainSql.text

/-- Requests that are the same but for their data can both be planned, or neither can. The texts of
their plans are the same, and each plan carries the data of its request: there are as many of them,
and they are the same but where the requests differ. -/
theorem Configuration.sharesTexts_of_redacted_eq {configuration : Configuration}
    {request other : Request}
    (hsame : request.redacted configuration.catalog = other.redacted configuration.catalog) :
    (∀ start otherStart, (∃ plan last, configuration.plan request start = .ok (plan, last)) ↔
      ∃ plan last, configuration.plan other otherStart = .ok (plan, last)) ∧
    ∀ prepared plan otherPrepared otherPlan, configuration.Plans request prepared plan →
      configuration.Plans other otherPrepared otherPlan →
        plan.SharesTexts otherPlan ∧
          plan.Carries (request.data configuration.catalog) ∧
            otherPlan.Carries (other.data configuration.catalog) ∧
              plan.query.sql.params.length = otherPlan.query.sql.params.length := by
  refine ⟨fun start otherStart => ?_, fun prepared plan otherPrepared otherPlan hplan hother => ?_⟩
  · rw [exists_plan_iff, exists_plan_iff]
    constructor
    · rintro ⟨prepared, plan, hplan⟩
      obtain ⟨otherPrepared, otherPlan, hother, -⟩ := hplan.exists_of_redacted_eq hsame
      exact ⟨otherPrepared, otherPlan, hother⟩
    · rintro ⟨otherPrepared, otherPlan, hother⟩
      obtain ⟨prepared, plan, hplan, -⟩ := hother.exists_of_redacted_eq hsame.symm
      exact ⟨prepared, plan, hplan⟩
  · obtain ⟨_, found, hfound, hquery⟩ := hplan.exists_of_redacted_eq hsame
    obtain rfl : found = otherPlan := hfound.plan_unique hother
    have htext : plan.query.sql.text = found.query.sql.text := by
      rw [← Sql.Select.text_sql_redacted, hquery, Sql.Select.text_sql_redacted]
    have hexplain : plan.query.explainSql.text = found.query.explainSql.text := by
      rw [← Sql.Select.text_explainSql_redacted, hquery, Sql.Select.text_explainSql_redacted]
    have hlength : plan.query.sql.params.length = found.query.sql.params.length := by
      have hparams := congrArg (fun query => query.sql.params.length) hquery
      simpa only [Sql.Select.params_sql_redacted, List.length_map] using hparams
    have hcarries := hplan.params_eq_data
    have hotherCarries := hother.params_eq_data
    exact ⟨⟨htext, hexplain⟩, ⟨hcarries, (plan.query.params_explainSql).trans hcarries⟩,
      ⟨hotherCarries, (found.query.params_explainSql).trans hotherCarries⟩, hlength⟩

/-- A request with data that would end a string, a name or a statement if they were in its text. -/
def hostileRequest : Request where
  entity := "user"
  aliasName := "u"
  predicate := some (.not (.or
    [.comparison (.parameter (.named "\"; --")) .like (.scalar (.string "' OR 1 = 1")),
      .isNull (.column "id" none) true,
      .between (.column "age" none) (.parameter (.positional 7)) (.parameter (.named "$1"))
        false]))

/-- Hostile data go beside the text that harmless data go beside. -/
theorem sharesTexts_hostileRequest :
    ∃ prepared plan otherPrepared otherPlan,
      usersConfiguration.Plans suppliedRequest prepared plan ∧
        usersConfiguration.Plans hostileRequest otherPrepared otherPlan ∧
          plan.SharesTexts otherPlan ∧
            otherPlan.Carries
              [.variable "\"; --", .string "' OR 1 = 1", .positional 7, .variable "$1"] := by
  have hsame : suppliedRequest.redacted usersConfiguration.catalog =
      hostileRequest.redacted usersConfiguration.catalog := rfl
  have hplan : usersConfiguration.Plans suppliedRequest _ _ := .of_planned 0 rfl rfl
  obtain ⟨-, htexts⟩ := Configuration.sharesTexts_of_redacted_eq hsame
  obtain ⟨otherPrepared, otherPlan, hother, -⟩ := hplan.exists_of_redacted_eq hsame
  obtain ⟨hshares, -, hcarries, -⟩ := htexts _ _ _ _ hplan hother
  exact ⟨_, _, _, _, hplan, hother, hshares, hcarries⟩

end QueryModel
