import QueryModel.Proofs.Planning.Reanalysis
import QueryModel.Proofs.Query.Leaves
import QueryModel.Proofs.Sql.Regrouped

/-! # The parameters of a plan

The placeholders of a plan stand for the strings and parameters among the leaves of the prepared
predicate, in their order. Tests for null that are decided drop columns only, and negations that are
pushed down keep the leaves in place, so that the strategy for negations does not matter.
-/

namespace QueryModel

/-- What the placeholder for a scalar stands for, if there is one in a statement. -/
def Scalar.param? (scalar : Scalar) : Option Sql.Param :=
  match scalar.source with
  | .literal (.string text) => some (.string text)
  | .literal _ => none
  | .parameter (.named name) => some (.variable name)
  | .parameter (.positional position) => some (.positional position)
  | .path _ _ => none

/-- The parameter that is supplied for a placeholder, unless it stands for a string. -/
def Sql.Param.supplied? : Sql.Param → Option Parameter
  | .string _ => none
  | .variable name => some (.named name)
  | .positional position => some (.positional position)

theorem Scalar.param?_bind_supplied? (scalar : Scalar) :
    scalar.param?.bind Sql.Param.supplied? = scalar.parameter? := by
  unfold param? parameter?
  cases scalar.source with
  | literal value => cases value <;> rfl
  | parameter supplied => cases supplied <;> rfl
  | path root attributeName => rfl

namespace TableContext

variable {context : TableContext}

theorem referred_scalar {scalar : Scalar} {value : Sql.Expression}
    (hvalue : context.scalar scalar = .ok value) :
    Sql.referred value.pieces = scalar.param?.toList := by
  unfold TableContext.scalar at hvalue
  unfold Scalar.param?
  cases hsource : scalar.source with
  | literal literal =>
    rw [hsource] at hvalue
    cases hvalue
    cases literal with
    | boolean value => cases value <;> rfl
    | _ => rfl
  | parameter supplied =>
    rw [hsource] at hvalue
    cases hvalue
    cases supplied <;> rfl
  | path root attributeName =>
    rw [hsource] at hvalue
    obtain ⟨-, known, -, rfl⟩ := column_eq_ok hvalue
    rfl

theorem referred_scalars {scalars : List Scalar} {items : List Sql.Expression}
    (hitems : scalars.mapM context.scalar = .ok items) :
    Sql.referred (Sql.itemPieces items) = scalars.filterMap Scalar.param? := by
  replace hitems := Except.forall₂_of_mapM_eq_ok hitems
  induction hitems with
  | nil => rfl
  | @cons scalar item rest others hitem _ ih =>
    have hcomma : Sql.referred (if others.isEmpty then [] else [.verbatim ", "]) = [] := by
      split <;> rfl
    rw [Sql.itemPieces, Sql.referred_append, Sql.referred_append, hcomma, referred_scalar hitem,
      ih]
    cases hparam : scalar.param? <;> simp [hparam]

theorem param?_of_isNeverNull {scalar : Scalar} (hnever : context.isNeverNull scalar = .ok true) :
    scalar.param? = none := by
  unfold isNeverNull at hnever
  unfold Scalar.param?
  cases hsource : scalar.source with
  | literal literal => rw [hsource] at hnever; cases hnever
  | parameter supplied => rw [hsource] at hnever; cases hnever
  | path root attributeName => rfl

/-- What becomes of a predicate refers to the strings and parameters among its leaves. -/
theorem Translates.referred_eq {predicate : Predicate} {truth : Sql.Expression}
    (htranslates : context.Translates predicate truth) :
    Sql.referred truth.pieces = predicate.leaves.filterMap Scalar.param? := by
  induction htranslates with
  | comparison id operator hleft hright =>
    simp [Sql.Expression.pieces, referred_scalar hleft, referred_scalar hright, Predicate.leaves,
      Expression.leaves, List.filterMap_eq_flatMap_toList]
  | membership id negated hleft hright =>
    simp [Sql.Expression.pieces, referred_scalar hleft, referred_scalars hright, Predicate.leaves,
      Expression.leaves, List.filterMap_eq_flatMap_toList]
  | and id hleft hright ihleft ihright =>
    rw [Sql.Expression.referred_and, ihleft, ihright, Predicate.leaves, List.filterMap_append]
  | or id hleft hright ihleft ihright =>
    rw [Sql.Expression.referred_or, ihleft, ihright, Predicate.leaves, List.filterMap_append]
  | negation id hinner ih => exact ih
  | decidedNullness id negated hoperand hnever =>
    rw [Predicate.leaves, List.filterMap_cons_none (param?_of_isNeverNull hnever)]
    cases negated <;> rfl
  | nullness id negated hoperand hnever =>
    simp [Sql.Expression.pieces, referred_scalar hoperand, Predicate.leaves,
      List.filterMap_eq_flatMap_toList]
  | between id negated hoperand hlower hupper =>
    simp [Sql.Expression.pieces, referred_scalar hoperand, referred_scalar hlower,
      referred_scalar hupper, Predicate.leaves, List.filterMap_eq_flatMap_toList]

end TableContext

/-! ## Plans -/

namespace Statement

/-- The single values in a statement, from left to right. -/
def leaves (statement : Statement) : List Scalar :=
  (statement.predicate.map Predicate.leaves).getD []

theorem leaves_anonymous (statement : Statement) :
    statement.anonymous.leaves = statement.leaves.map Scalar.anonymous := by
  obtain ⟨root, predicate⟩ := statement
  cases predicate with
  | none => rfl
  | some predicate => exact predicate.leaves_anonymous

theorem leaves_applied (strategy : NegationStrategy) (statement : Statement) :
    (strategy.applied statement).leaves = statement.leaves := by
  obtain ⟨root, predicate⟩ := statement
  cases strategy with
  | wrap => rfl
  | distribute =>
    cases predicate with
    | none => rfl
    | some predicate => exact predicate.leaves_distributed false

theorem parameters_eq (statement : Statement) :
    (statement.predicate.map Predicate.parameters).getD [] =
      (statement.leaves.filterMap Scalar.parameter?).eraseDups := by
  obtain ⟨root, predicate⟩ := statement
  cases predicate with
  | none => rfl
  | some predicate => exact predicate.parameters_eq

/-- Strings and parameters among leaves do not depend on the identities of the leaves. -/
theorem params_eq_of_anonymous_eq {left right : Statement}
    (hsame : left.anonymous = right.anonymous) :
    left.leaves.filterMap Scalar.param? = right.leaves.filterMap Scalar.param? := by
  have hanonymous : Scalar.param? ∘ Scalar.anonymous = Scalar.param? := rfl
  have hleaves := congrArg (fun statement => statement.leaves.filterMap Scalar.param?) hsame
  simpa only [leaves_anonymous, List.filterMap_map, hanonymous] using hleaves

end Statement

theorem TableContext.TranslatesOptional.referred_eq {context : TableContext}
    {predicate : Option Predicate} {truth : Sql.Expression}
    (htranslates : context.TranslatesOptional predicate truth) :
    Sql.referred truth.pieces =
      ((predicate.map Predicate.leaves).getD []).filterMap Scalar.param? := by
  cases htranslates with
  | none => rfl
  | some htranslates => exact htranslates.referred_eq

/-- `plan.SuppliesTo statement`: the placeholders of the plan stand for the strings and parameters
among the leaves of the statement, in order, and the parameters of the plan are those that some
placeholder stands for, each listed once. -/
structure Plan.SuppliesTo (plan : Plan) (statement : Statement) : Prop where
  params_eq : plan.query.sql.params = statement.leaves.filterMap Scalar.param?
  parameters_eq :
    plan.parameters = (plan.query.sql.params.filterMap Sql.Param.supplied?).eraseDups

namespace Configuration.Plans

variable {configuration : Configuration} {request : Request} {prepared : PreparedQuery}
  {plan : Plan}

theorem suppliesTo (hplan : configuration.Plans request prepared plan) :
    plan.SuppliesTo prepared.statement := by
  obtain ⟨query, hquery, ⟨⟩⟩ := Except.bind_eq_ok.mp hplan.planned_eq
  obtain ⟨entity, -, -, htranslates⟩ := Statement.select_eq_ok hquery
  have hparams : query.sql.params = prepared.statement.leaves.filterMap Scalar.param? := by
    rw [Sql.Select.params_sql, htranslates.referred_eq]
    exact congrArg _ (Statement.leaves_applied _ _)
  refine ⟨hparams, ?_⟩
  rw [hparams, List.filterMap_filterMap, Statement.parameters_eq, Statement.leaves_applied]
  simp only [Scalar.param?_bind_supplied?]

/-- Configurations with one catalog prepare one statement for a request, up to identities. -/
theorem anonymous_eq {other : Configuration} {otherPrepared : PreparedQuery} {otherPlan : Plan}
    (hplan : configuration.Plans request prepared plan)
    (hother : other.Plans request otherPrepared otherPlan)
    (hcatalog : configuration.catalog = other.catalog) :
    prepared.statement.anonymous = otherPrepared.statement.anonymous := by
  obtain ⟨start, _, _, _, hprepare, -, -⟩ := hplan
  obtain ⟨otherStart, _, _, _, hotherPrepare, -, -⟩ := hother
  obtain ⟨⟨analysed, later⟩, hanalysed, ⟨⟩⟩ := Except.bind_eq_ok.mp hprepare
  obtain ⟨⟨otherAnalysed, otherLater⟩, hotherAnalysed, ⟨⟩⟩ := Except.bind_eq_ok.mp hotherPrepare
  rw [← hcatalog] at hotherAnalysed
  obtain ⟨error, herror, -⟩ | ⟨left, right, _, _, hleft, hright, hsame⟩ :=
    request.agrees_analyse configuration.catalog start otherStart
  · rw [hanalysed] at herror
    cases herror
  · rw [hanalysed] at hleft
    rw [hotherAnalysed] at hright
    cases hleft
    cases hright
    exact hsame

/-- The parameters of a plan are those of the prepared tree, whichever strategy the configuration
has for negations. -/
theorem suppliesTo_under_every_strategy (hplan : configuration.Plans request prepared plan) :
    plan.SuppliesTo prepared.statement ∧
      ∀ (strategy : NegationStrategy) (otherPrepared : PreparedQuery) (other : Plan),
        { configuration with negationStrategy := strategy }.Plans request otherPrepared other →
          other.query.sql.params = plan.query.sql.params ∧ other.parameters = plan.parameters := by
  refine ⟨hplan.suppliesTo, fun strategy otherPrepared other hother => ?_⟩
  have hsame := Statement.params_eq_of_anonymous_eq (hplan.anonymous_eq hother rfl)
  have hparams : other.query.sql.params = plan.query.sql.params := by
    rw [hplan.suppliesTo.params_eq, hother.suppliesTo.params_eq, hsame]
  refine ⟨hparams, ?_⟩
  rw [hplan.suppliesTo.parameters_eq, hother.suppliesTo.parameters_eq, hparams]

end Configuration.Plans

/-- A negated disjunction over a parameter that stands in two places and a string. -/
def suppliedRequest : Request where
  entity := "user"
  aliasName := "u"
  predicate := some (.not (.or
    [.comparison (.parameter (.named "name")) .like (.scalar (.string "A%")),
      .isNull (.column "id" none) true,
      .between (.column "age" none) (.parameter (.positional 1)) (.parameter (.named "name"))
        false]))

/-- The plans of one request, with its negations distributed and with them left in place. -/
theorem suppliesTo_suppliedRequest :
    ∃ prepared plan otherPrepared other,
      usersConfiguration.Plans suppliedRequest prepared plan ∧
        { usersConfiguration with negationStrategy := .wrap }.Plans suppliedRequest otherPrepared
          other ∧
        plan.query.sql.params =
          [.variable "name", .string "A%", .positional 1, .variable "name"] ∧
        plan.parameters = [.named "name", .positional 1] ∧
        other.query.sql.params = plan.query.sql.params ∧ other.parameters = plan.parameters := by
  have hplan : usersConfiguration.Plans suppliedRequest _ _ := .of_planned 0 rfl rfl
  have hother : { usersConfiguration with negationStrategy := .wrap }.Plans suppliedRequest _ _ :=
    .of_planned 0 rfl rfl
  obtain ⟨hsupplies, hstrategy⟩ := hplan.suppliesTo_under_every_strategy
  obtain ⟨hparams, hparameters⟩ := hstrategy .wrap _ _ hother
  exact ⟨_, _, _, _, hplan, hother, hsupplies.params_eq, hsupplies.parameters_eq, hparams,
    hparameters⟩

end QueryModel
