import QueryModel.Proofs.Planning.Determined
import QueryModel.Proofs.Query.Parameters
import QueryModel.Proofs.Query.Statements
import QueryModel.Proofs.Sql.Regrouped

/-! # Equal texts have equal plans

The HQL text of a plan determines the plan, up to the grouping of conjunctions and disjunctions in
its restriction: whatever the text does not show of a tree is either fixed by the configuration or
does not enter the plan. A plan can therefore be looked up by its text.
-/

namespace QueryModel

/-! ## Restrictions -/

namespace TableContext

variable (context : TableContext)

/-- The expression of what is shown of a scalar, where the scalar has one. -/
def shownValue : Source → Sql.Expression
  | .literal value => .value (literal value)
  | .parameter supplied => .value (parameter supplied)
  | .path _ attributeName =>
    .column (.aliased context.tableAlias)
      (((context.catalog.attribute? context.root.entity attributeName).map
        Attribute.columnName).getD "")

/-- Whether what is shown of a scalar is the attribute of a column that holds no nulls. -/
def shownNeverNull : Source → Bool
  | .path _ attributeName =>
    ((context.catalog.attribute? context.root.entity attributeName).map
      fun known => !known.nullable).getD false
  | .literal _ => false
  | .parameter _ => false

/-- The expression of a predicate, where it has one, from what is shown of the predicate. -/
def shownTruth : Predicate → Sql.Expression
  | .comparison _ left operator (.scalar right) =>
    .binary (context.shownValue left.shown) operator.sql (context.shownValue right.shown)
  | .comparison _ left operator (.list right) =>
    .membership (context.shownValue left.shown) (operator == .notIn)
      ((right.elements.map Scalar.shown).map context.shownValue)
  | .junction _ left .and right => .and (shownTruth left) (shownTruth right)
  | .junction _ left .or right => .or (shownTruth left) (shownTruth right)
  | .negation _ inner => .not (shownTruth inner)
  | .nullness _ operand negated =>
    if context.shownNeverNull operand.shown then if negated then .always else .never
    else .nullness (context.shownValue operand.shown) negated
  | .between _ operand lower upper negated =>
    .between (context.shownValue operand.shown) (context.shownValue lower.shown)
      (context.shownValue upper.shown) negated

variable {context}

theorem shownTruth_comparison_eq (id other : NodeId) {left left' : Scalar} (operator : Operator)
    {right right' : Expression} (hleft : left.shown = left'.shown)
    (hright : right.shown = right'.shown) :
    context.shownTruth (.comparison id left operator right) =
      context.shownTruth (.comparison other left' operator right') := by
  obtain ⟨hlist, hleaves⟩ := Prod.mk.inj hright
  cases right with
  | scalar node =>
    cases right' with
    | scalar node' => simp only [shownTruth, hleft, (List.cons.inj hleaves).1]
    | list values => cases hlist
  | list values =>
    cases right' with
    | scalar node => cases hlist
    | list values' =>
      have helements : values.elements.map Scalar.shown = values'.elements.map Scalar.shown :=
        hleaves
      simp only [shownTruth, hleft, helements]

/-- Alike predicates become one expression, up to grouping. -/
theorem regrouped_of_alike {left right : Predicate} (halike : left.Alike right) :
    (context.shownTruth left).Regrouped (context.shownTruth right) := by
  induction halike with
  | comparison id other operator hleft hright =>
    rw [shownTruth_comparison_eq id other operator hleft hright]
    exact .refl _
  | junction id other connective hleft hright ihleft ihright =>
    cases connective with
    | and => exact .and ihleft ihright
    | or => exact .or ihleft ihright
  | negation id other hinner ih => exact .not ih
  | nullness id other negated hoperand =>
    simp only [shownTruth, hoperand]
    exact .refl _
  | between id other negated hoperand hlower hupper =>
    simp only [shownTruth, hoperand, hlower, hupper]
    exact .refl _
  | regroup outer inner outer' inner' first connective second third =>
    cases connective with
    | and => exact .regroupAnd _ _ _
    | or => exact .regroupOr _ _ _
  | symm _ ih => exact ih.symm
  | trans _ _ ihfirst ihsecond => exact ihfirst.trans ihsecond

theorem eq_shownValue {scalar : Scalar} {value : Sql.Expression}
    (hvalue : context.scalar scalar = .ok value) : value = context.shownValue scalar.shown := by
  unfold TableContext.scalar at hvalue
  unfold Scalar.shown
  cases hsource : scalar.source with
  | literal literal =>
    rw [hsource] at hvalue
    cases hvalue
    rfl
  | parameter supplied =>
    rw [hsource] at hvalue
    cases hvalue
    rfl
  | path root attributeName =>
    rw [hsource] at hvalue
    obtain ⟨rfl, known, hknown, rfl⟩ := column_eq_ok hvalue
    rw [Source.shown, shownValue, Catalog.attributeOf_eq_ok_iff.mp hknown]
    rfl

theorem eq_shownNeverNull {scalar : Scalar} {value : Sql.Expression} {never : Bool}
    (hvalue : context.scalar scalar = .ok value) (hnever : context.isNeverNull scalar = .ok never) :
    never = context.shownNeverNull scalar.shown := by
  unfold TableContext.scalar at hvalue
  unfold isNeverNull at hnever
  unfold Scalar.shown
  cases hsource : scalar.source with
  | literal literal =>
    rw [hsource] at hnever
    cases hnever
    rfl
  | parameter supplied =>
    rw [hsource] at hnever
    cases hnever
    rfl
  | path root attributeName =>
    rw [hsource] at hvalue hnever
    obtain ⟨rfl, known, hknown, rfl⟩ := column_eq_ok hvalue
    obtain ⟨known', hknown', ⟨⟩⟩ := Except.bind_eq_ok.mp hnever
    rw [Source.shown, shownNeverNull, Catalog.attributeOf_eq_ok_iff.mp hknown']
    rfl

theorem eq_shownValues {scalars : List Scalar} {items : List Sql.Expression}
    (hitems : scalars.mapM context.scalar = .ok items) :
    items = (scalars.map Scalar.shown).map context.shownValue := by
  replace hitems := Except.forall₂_of_mapM_eq_ok hitems
  induction hitems with
  | nil => rfl
  | cons hitem _ ih => rw [List.map_cons, List.map_cons, ← ih, eq_shownValue hitem]

/-- What becomes of a predicate is determined by what is shown of it. -/
theorem Translates.eq_shownTruth {predicate : Predicate} {truth : Sql.Expression}
    (htranslates : context.Translates predicate truth) : truth = context.shownTruth predicate := by
  induction htranslates with
  | comparison id operator hleft hright =>
    rw [shownTruth, eq_shownValue hleft, eq_shownValue hright]
  | membership id negated hleft hright =>
    rw [shownTruth, eq_shownValue hleft, eq_shownValues hright]
    cases negated <;> rfl
  | and id hleft hright ihleft ihright => rw [shownTruth, ihleft, ihright]
  | or id hleft hright ihleft ihright => rw [shownTruth, ihleft, ihright]
  | negation id hinner ih => rw [shownTruth, ih]
  | decidedNullness id negated hoperand hnever =>
    rw [shownTruth, ← eq_shownNeverNull hoperand hnever, if_pos rfl]
  | nullness id negated hoperand hnever =>
    rw [shownTruth, ← eq_shownNeverNull hoperand hnever, if_neg Bool.false_ne_true,
      eq_shownValue hoperand]
  | between id negated hoperand hlower hupper =>
    rw [shownTruth, eq_shownValue hoperand, eq_shownValue hlower, eq_shownValue hupper]

end TableContext

/-! ## Plans -/

/-- Statements with alike predicates are translated to regrouped restrictions. -/
theorem TableContext.TranslatesOptional.regrouped {context : TableContext}
    {left right : Option Predicate} {truth other : Sql.Expression}
    (hleft : context.TranslatesOptional left truth)
    (hright : context.TranslatesOptional right other)
    (halike : Option.Rel Predicate.Alike left right) : truth.Regrouped other := by
  cases halike with
  | none =>
    cases hleft
    cases hright
    exact .refl _
  | some halike =>
    cases hleft with
    | some hleft =>
      cases hright with
      | some hright =>
        rw [hleft.eq_shownTruth, hright.eq_shownTruth]
        exact regrouped_of_alike halike

/-- `plan.SameUpToGrouping other`: the plans run the same query, up to the grouping of conjunctions
and disjunctions in its restriction. -/
structure Plan.SameUpToGrouping (plan other : Plan) : Prop where
  rootEntity_eq : plan.rootEntity = other.rootEntity
  source_eq : plan.query.source = other.query.source
  parameters_eq : plan.parameters = other.parameters
  params_eq : plan.query.sql.params = other.query.sql.params
  regrouped : plan.query.restriction.Regrouped other.query.restriction

/-- Under one configuration, plans with one text are the same up to grouping, whatever requests
they were made for. -/
theorem Configuration.Plans.sameUpToGrouping_of_hql_eq {configuration : Configuration}
    {request otherRequest : Request} {prepared otherPrepared : PreparedQuery} {plan other : Plan}
    (hplan : configuration.Plans request prepared plan)
    (hother : configuration.Plans otherRequest otherPrepared other)
    (hsame : plan.hql = other.hql) : plan.SameUpToGrouping other := by
  obtain ⟨left, -, -, -, -, hleft⟩ := hplan.exists_statement
  obtain ⟨right, -, -, -, -, hright⟩ := hother.exists_statement
  obtain ⟨hroot, halike⟩ := Statement.root_eq_and_alike_of_hql_eq
    (hleft.hql_eq.symm.trans (hsame.trans hright.hql_eq))
  obtain ⟨entity, hentity, hsource, hrestriction⟩ := Statement.select_eq_ok hleft.select_eq
  obtain ⟨entity', hentity', hsource', hrestriction'⟩ := Statement.select_eq_ok hright.select_eq
  rw [hroot, hentity'] at hentity
  obtain rfl : entity' = entity := Except.ok.inj hentity
  have hsources : plan.query.source = other.query.source := by rw [hsource, hsource', hroot]
  have hregrouped : plan.query.restriction.Regrouped other.query.restriction := by
    refine TableContext.TranslatesOptional.regrouped hrestriction ?_ halike
    rw [Statement.tableContext, hroot]
    exact hrestriction'
  refine ⟨?_, hsources, ?_, Sql.Select.params_eq hsources hregrouped, hregrouped⟩
  · rw [hleft.rootEntity_eq, hright.rootEntity_eq, hroot]
  · rw [hleft.parameters_eq, hright.parameters_eq, parameters_eq_of_alike halike]

/-! ## Two groupings of one disjunction -/

/-- Users whose age is missing. -/
def missingAge : Request.Condition := .isNull (.column "age" none) false

/-- Users of a supplied age. -/
def suppliedAge : Request.Condition :=
  .comparison (.column "age" none) .equals (.parameter (.named "age"))

/-- Users whose number is missing. -/
def missingNumber : Request.Condition := .isNull (.column "id" none) false

/-- A disjunction whose second operand is a disjunction. -/
def nestedRequest : Request where
  entity := "user"
  aliasName := "u"
  predicate := some (.or [missingAge, .or [suppliedAge, missingNumber]])

/-- A disjunction of three operands. -/
def flatRequest : Request where
  entity := "user"
  aliasName := "u"
  predicate := some (.or [missingAge, suppliedAge, missingNumber])

/-- A plan of users that meet a restriction. -/
def agePlan (restriction : Sql.Expression) : Plan where
  rootEntity := "user"
  hql := "select u from user u where u.age is null or u.age = :age or u.id is null"
  parameters := [.named "age"]
  query := ⟨some ⟨.stored "public" "users", "u"⟩, restriction⟩

/-- Whether the age is missing. -/
def ageIsNull : Sql.Expression := .nullness (.column (.aliased "u") "age_years") false

/-- Whether the age is the supplied one. -/
def ageIsSupplied : Sql.Expression :=
  .binary (.column (.aliased "u") "age_years") "=" (.value (.variable "age"))

/-- The plan of the nested disjunction, whose last operand is decided from the catalog. -/
def nestedPlan : Plan := agePlan (.or ageIsNull (.or ageIsSupplied .never))

/-- The plan of the flat disjunction. -/
def flatPlan : Plan := agePlan (.or (.or ageIsNull ageIsSupplied) .never)

/-- Two requests with one text have plans with different groupings of one disjunction. -/
theorem sameUpToGrouping_nestedPlan_flatPlan :
    ∃ prepared otherPrepared, usersConfiguration.Plans nestedRequest prepared nestedPlan ∧
      usersConfiguration.Plans flatRequest otherPrepared flatPlan ∧
        nestedPlan.SameUpToGrouping flatPlan := by
  have hnested : usersConfiguration.Plans nestedRequest _ nestedPlan := .of_planned 0 rfl rfl
  have hflat : usersConfiguration.Plans flatRequest _ flatPlan := .of_planned 0 rfl rfl
  exact ⟨_, _, hnested, hflat, hnested.sameUpToGrouping_of_hql_eq hflat rfl⟩

end QueryModel
