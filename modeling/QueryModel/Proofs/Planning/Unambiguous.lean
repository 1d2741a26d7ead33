import QueryModel.Proofs.Planning.Determined
import QueryModel.Proofs.Sql.Unambiguous

/-! # Plans are told by their SQL

No name of a table, of a column or of an alias, and no value, can make the statement of a plan read
as another one: whatever is planned, under whatever configurations, plans with one text and the same
parameters select from one table, restricted alike.
-/

namespace QueryModel

open Sql.Expression (HasKnownOperators)

namespace TableContext

variable {context : TableContext}

theorem hasKnownOperators_scalar {scalar : Scalar} {value : Sql.Expression}
    (hvalue : context.scalar scalar = .ok value) : value.HasKnownOperators := by
  unfold TableContext.scalar at hvalue
  split at hvalue
  · cases hvalue
    exact .value _
  · cases hvalue
    exact .value _
  · obtain ⟨-, known, -, rfl⟩ := column_eq_ok hvalue
    exact .column _ _

theorem hasKnownOperators_scalars {scalars : List Scalar} {items : List Sql.Expression}
    (hitems : scalars.mapM context.scalar = .ok items) :
    ∀ item ∈ items, item.HasKnownOperators := by
  replace hitems := Except.forall₂_of_mapM_eq_ok hitems
  induction hitems with
  | nil => exact List.forall_mem_nil _
  | cons hitem _ ih => exact List.forall_mem_cons.mpr ⟨hasKnownOperators_scalar hitem, ih⟩

/-- What becomes of a predicate of a store has operators between values only, since lists stand on
the right of the operators on lists. -/
theorem Translates.hasKnownOperators {predicate : Predicate} {truth : Sql.Expression}
    (htranslates : context.Translates predicate truth) {store : NodeStore}
    (hpredicate : Node.predicate predicate ∈ store) : truth.HasKnownOperators := by
  induction htranslates with
  | comparison id operator hleft hright =>
    have hsingle : operator.isMultiValued = false := store.isShaped hpredicate
    exact .binary operator hsingle rfl (hasKnownOperators_scalar hleft)
      (hasKnownOperators_scalar hright)
  | membership id negated hleft hright =>
    exact .membership negated (hasKnownOperators_scalar hleft) (hasKnownOperators_scalars hright)
  | and id hleft hright ihleft ihright =>
    have hoperands := store.mem_of_junction hpredicate
    exact .and (ihleft hoperands.1) (ihright hoperands.2)
  | or id hleft hright ihleft ihright =>
    have hoperands := store.mem_of_junction hpredicate
    exact .or (ihleft hoperands.1) (ihright hoperands.2)
  | negation id hinner ih =>
    have hoperands := store.mem_of_negation hpredicate
    exact .not (ih hoperands)
  | decidedNullness id negated hoperand hnever => cases negated <;> exact .value _
  | nullness id negated hoperand hnever =>
    exact .nullness negated (hasKnownOperators_scalar hoperand)
  | between id negated hoperand hlower hupper =>
    exact .between negated (hasKnownOperators_scalar hoperand) (hasKnownOperators_scalar hlower)
      (hasKnownOperators_scalar hupper)

theorem TranslatesOptional.hasKnownOperators {predicate : Option Predicate}
    {truth : Sql.Expression} (htranslates : context.TranslatesOptional predicate truth)
    {store : NodeStore} (hpredicate : ∀ node ∈ predicate, Node.predicate node ∈ store) :
    truth.HasKnownOperators := by
  cases htranslates with
  | none => exact .value _
  | some htranslates => exact htranslates.hasKnownOperators (hpredicate _ rfl)

end TableContext

namespace Configuration.Plans

variable {configuration otherConfiguration : Configuration} {request otherRequest : Request}
  {prepared otherPrepared : PreparedQuery} {plan other : Plan}

theorem hasKnownOperators (hplan : configuration.Plans request prepared plan) :
    plan.query.restriction.HasKnownOperators := by
  obtain ⟨statement, store, hmem, -, -, hisOf⟩ := hplan.exists_statement
  obtain ⟨entity, -, -, htranslates⟩ := Statement.select_eq_ok hisOf.select_eq
  exact htranslates.hasKnownOperators hmem

/-- Plans of any requests under any configurations have one text and the same parameters exactly if
they select from one table under one name, and their restrictions are the same after whole numbers
are identified with the floating point numbers that are written alike. -/
theorem query_sql_eq_iff (hplan : configuration.Plans request prepared plan)
    (hother : otherConfiguration.Plans otherRequest otherPrepared other) :
    plan.query.sql.text = other.query.sql.text ∧ plan.query.sql.params = other.query.sql.params ↔
      plan.query.source = other.query.source ∧
        plan.query.restriction.SameUpToNumbers other.query.restriction :=
  Sql.Select.sql_eq_iff hplan.hasKnownOperators hother.hasKnownOperators

end Configuration.Plans

/-! ## Plans with names that look like SQL -/

/-- Users in a table whose name reads like the end of a statement. -/
def quotedConfiguration : Configuration where
  catalog :=
    ⟨.ofList [("user", ⟨"public", "users\" AS \"u\" WHERE true", .ofList
      [("age", ⟨"age\" = 0) OR (\"id", .any, true⟩)]⟩)]⟩
  dialect := .postgres
  negationStrategy := .wrap

/-- Users whose age is not a number. -/
def ageRequest (number : Json.Number) : Request where
  entity := "user"
  aliasName := "\"u"
  predicate := some
    (.not (.comparison (.column "age" none) .equals (.scalar (.number number))))

/-- The text of both requests for users whose age is not zero, with the zero of either kind. -/
theorem query_sql_eq_iff_ageRequest :
    ∃ prepared plan otherPrepared other,
      quotedConfiguration.Plans (ageRequest (.integer 0)) prepared plan ∧
        quotedConfiguration.Plans (ageRequest (.float (.zero false))) otherPrepared other ∧
        plan.query.sql.text =
          "SELECT * FROM \"public\".\"users\"\" AS \"\"u\"\" WHERE true\" AS \"\"\"u\" " ++
            "WHERE NOT (\"\"\"u\".\"age\"\" = 0) OR (\"\"id\" = 0)" ∧
        plan.query.source = other.query.source ∧
        plan.query.restriction.SameUpToNumbers other.query.restriction ∧
        plan.query.restriction ≠ other.query.restriction := by
  have hplan : quotedConfiguration.Plans (ageRequest (.integer 0)) _ _ := .of_planned 0 rfl rfl
  have hother : quotedConfiguration.Plans (ageRequest (.float (.zero false))) _ _ :=
    .of_planned 0 rfl rfl
  obtain ⟨hsource, hrestriction⟩ := (hplan.query_sql_eq_iff hother).mp ⟨rfl, rfl⟩
  exact ⟨_, _, _, _, hplan, hother, rfl, hsource, hrestriction, nofun⟩

end QueryModel
