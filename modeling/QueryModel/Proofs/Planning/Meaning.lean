import QueryModel.Proofs.Planning.Determined
import QueryModel.Proofs.Sql.Truth

/-! # Plans select what is asked for

The restriction of a plan holds of a row exactly when the predicate of the request does, with every
attribute read from its column, and is unknown exactly when the predicate is. Tests for null that
are decided without looking at the row are right on every row that the catalog allows.
-/

namespace QueryModel

namespace Catalog

/-- The values of the attributes of a root in a row of its table. -/
def bindings (catalog : Catalog) (root : Root) (row : String → Value)
    (parameter : Parameter → Value) : Bindings where
  path aliasName attributeName :=
    if aliasName = root.aliasName then
      match catalog.attribute? root.entity attributeName with
      | none => .null
      | some known => row known.columnName
    else .null
  parameter := parameter

/-- A row holds no null in the column of an attribute that is not nullable. -/
def AllowsRow (catalog : Catalog) (entityName : String) (row : String → Value) : Prop :=
  ∀ attributeName known, catalog.attribute? entityName attributeName = some known →
    known.nullable = false → row known.columnName ≠ .null

end Catalog

namespace TableContext

/-- What a predicate is read in, on either side of the translation. -/
structure Reads (context : TableContext) (environment : Sql.Environment) (row : String → Value) :
    Prop where
  column_eq : ∀ name, environment.column (.aliased context.tableAlias) name = row name
  allowsRow : context.catalog.AllowsRow context.root.entity row

variable {context : TableContext} {environment : Sql.Environment} {row : String → Value}

theorem meaning_literal (value : Value) : (literal value).meaning environment = value := by
  cases value <;> rfl

theorem meaning_parameter (supplied : Parameter) :
    (parameter supplied).meaning environment = environment.parameter supplied := by
  cases supplied <;> rfl

/-- A scalar has the same value in a statement as in the tree. -/
theorem meaning_scalar (hreads : context.Reads environment row) {scalar : Scalar}
    {expression : Sql.Expression} (hscalar : context.scalar scalar = .ok expression) :
    expression.meaning environment =
      scalar.value (context.catalog.bindings context.root row environment.parameter) := by
  unfold TableContext.scalar at hscalar
  unfold Scalar.value
  cases hsource : scalar.source with
  | literal value =>
    rw [hsource] at hscalar
    cases hscalar
    exact meaning_literal value
  | parameter supplied =>
    rw [hsource] at hscalar
    cases hscalar
    exact meaning_parameter supplied
  | path root attributeName =>
    rw [hsource] at hscalar
    obtain ⟨rfl, known, hknown, rfl⟩ := column_eq_ok hscalar
    simp only [Sql.Expression.meaning, hreads.column_eq, Catalog.bindings, if_true,
      Catalog.attributeOf_eq_ok_iff.mp hknown]

theorem meanings_scalars (hreads : context.Reads environment row) {scalars : List Scalar}
    {items : List Sql.Expression} (hitems : scalars.mapM context.scalar = .ok items) :
    Sql.meanings environment items =
      scalars.map
        (Scalar.value (context.catalog.bindings context.root row environment.parameter)) := by
  replace hitems := Except.forall₂_of_mapM_eq_ok hitems
  induction hitems with
  | nil => rfl
  | cons hitem _ ih => rw [Sql.meanings, List.map_cons, ih, meaning_scalar hreads hitem]

/-- An attribute that is not nullable has a value in every row that is allowed. -/
theorem value_ne_null (hreads : context.Reads environment row) {scalar : Scalar}
    {expression : Sql.Expression} (hscalar : context.scalar scalar = .ok expression)
    (hnever : context.isNeverNull scalar = .ok true) :
    scalar.value (context.catalog.bindings context.root row environment.parameter) ≠ .null := by
  rw [← meaning_scalar hreads hscalar]
  unfold TableContext.scalar at hscalar
  unfold isNeverNull at hnever
  cases hsource : scalar.source with
  | literal value => simp [hsource] at hnever
  | parameter supplied => simp [hsource] at hnever
  | path root attributeName =>
    simp only [hsource] at hscalar hnever
    obtain ⟨rfl, known, hknown, rfl⟩ := column_eq_ok hscalar
    rw [hknown] at hnever
    have hnullable : known.nullable = false := by
      simpa [Bind.bind, Except.bind, Pure.pure, Except.pure] using hnever
    rw [Sql.Expression.meaning, hreads.column_eq]
    exact hreads.allowsRow _ _ (Catalog.attributeOf_eq_ok_iff.mp hknown) hnullable

/-- What becomes of a predicate has the truth value of the predicate. -/
theorem Translates.truth_eq (hreads : context.Reads environment row) {predicate : Predicate}
    {expression : Sql.Expression} (htranslates : context.Translates predicate expression)
    {store : NodeStore} (hpredicate : Node.predicate predicate ∈ store) :
    expression.truth environment =
      predicate.evaluate (context.catalog.bindings context.root row environment.parameter) := by
  unfold Sql.Expression.truth
  induction htranslates with
  | comparison id operator hleft hright =>
    have hshaped : operator.isMultiValued = false := store.isShaped hpredicate
    simp only [Sql.Expression.meaning, Sql.compared, Operator.ofSql?_sql hshaped,
      meaning_scalar hreads hleft, meaning_scalar hreads hright, Truth.truth_value,
      Predicate.evaluate, Expression.compared]
  | membership id negated hleft hright =>
    cases negated <;>
      simp only [Sql.Expression.meaning, meaning_scalar hreads hleft,
        meanings_scalars hreads hright, Truth.truth_value, Predicate.evaluate,
        Expression.compared, Truth.negateIf, if_true, if_false, Bool.false_eq_true]
  | and id hleft hright ihleft ihright =>
    have hoperands := store.mem_of_junction hpredicate
    rw [Sql.Expression.meaning, Truth.truth_value, ihleft hoperands.1, ihright hoperands.2]
    rfl
  | or id hleft hright ihleft ihright =>
    have hoperands := store.mem_of_junction hpredicate
    rw [Sql.Expression.meaning, Truth.truth_value, ihleft hoperands.1, ihright hoperands.2]
    rfl
  | negation id hinner ih =>
    have hoperands := store.mem_of_negation hpredicate
    rw [Sql.Expression.meaning, Truth.truth_value, ih hoperands]
    rfl
  | decidedNullness id negated hoperand hnever =>
    have hvalue := value_ne_null hreads hoperand hnever
    simp only [Predicate.evaluate, hvalue, decide_false, Bool.false_bne]
    cases negated <;> rfl
  | nullness id negated hoperand hnever =>
    simp only [Sql.Expression.meaning, meaning_scalar hreads hoperand, Truth.truth_value,
      Predicate.evaluate]
  | between id negated hoperand hlower hupper =>
    simp only [Sql.Expression.meaning, meaning_scalar hreads hoperand,
      meaning_scalar hreads hlower, meaning_scalar hreads hupper, Truth.truth_value,
      Predicate.evaluate]

end TableContext

/-- The truth value of the restriction of a planned statement on a row of the table. -/
theorem Statement.truth_select {statement : Statement} {configuration : Configuration}
    {select : Sql.Select} (hselect : statement.select configuration = .ok select)
    {store : NodeStore}
    (hstatement : ∀ predicate ∈ statement.predicate, Node.predicate predicate ∈ store)
    {row : String → Value} (hrow : configuration.catalog.AllowsRow statement.root.entity row)
    (parameter : Parameter → Value) :
    select.truth row parameter =
      statement.evaluate (configuration.catalog.bindings statement.root row parameter) := by
  obtain ⟨entity, -, hsource, htranslates⟩ := select_eq_ok hselect
  have hreads : (statement.tableContext configuration).Reads (select.environment row parameter)
      row :=
    { column_eq := fun name => by simp [Sql.Select.environment, hsource, tableContext]
      allowsRow := hrow }
  rw [Sql.Select.truth_eq]
  obtain ⟨root, predicate⟩ := statement
  obtain ⟨source, restriction⟩ := select
  cases htranslates with
  | none => rfl
  | some htranslates => exact htranslates.truth_eq hreads (hstatement _ rfl)

/-- A plan selects the rows that the prepared predicate holds of, and cannot decide the rows that
the prepared predicate cannot decide. -/
theorem Configuration.Plans.truth_query {configuration : Configuration} {request : Request}
    {prepared : PreparedQuery} {plan : Plan} (hplan : configuration.Plans request prepared plan)
    {row : String → Value} (hrow : configuration.catalog.AllowsRow request.entity row)
    (parameter : Parameter → Value) :
    plan.query.truth row parameter =
      prepared.statement.evaluate
        (configuration.catalog.bindings ⟨request.entity, request.aliasName⟩ row parameter) := by
  obtain ⟨statement, store, hmem, hstatement, hroot, hisOf⟩ := hplan.exists_statement
  rw [← hstatement.evaluate_eq, ← hroot]
  refine Statement.truth_select hisOf.select_eq hmem ?_ parameter
  rwa [hroot]

/-! ## A plan

Users whose age is known, asked for with a negation above two tests for null.
-/

/-- Not both: the age is missing, and the number is there. -/
def knownAgeRequest : Request where
  entity := "user"
  aliasName := "u"
  predicate := some
    (.not (.and [.isNull (.column "age" none) false, .isNull (.column "id" none) true]))

def knownAgePrepared : PreparedQuery where
  configuration := usersConfiguration
  statement :=
    ⟨⟨"user", "u"⟩, some (.negation 5 (.junction 4
      (.nullness 1 ⟨0, .integer, none, .path ⟨"user", "u"⟩ "age"⟩ false) .and
      (.nullness 3 ⟨2, .bigint, none, .path ⟨"user", "u"⟩ "id"⟩ true)))⟩

def knownAgePlan : Plan where
  rootEntity := "user"
  hql := "select u from user u where u.age is not null or u.id is null"
  parameters := []
  query := ⟨some ⟨.stored "public" "users", "u"⟩,
    .or (.nullness (.column (.aliased "u") "age_years") true) .never⟩

theorem plans_knownAge :
    usersConfiguration.Plans knownAgeRequest knownAgePrepared knownAgePlan :=
  .of_planned 0 rfl rfl

/-- A user without an age is not selected, and the number is known to be there from the catalog. -/
theorem truth_query_knownAge :
    let row : String → Value := fun name => if name = "user_id" then .integer 7 else .null
    usersConfiguration.catalog.AllowsRow "user" row ∧
      knownAgePlan.query.truth row (fun _ => .null) = .fails := by
  intro row
  have hrow : usersConfiguration.catalog.AllowsRow "user" row := by
    intro attributeName known hknown hnullable
    change SortedMap.lookupEntry attributeName
      [("age", ⟨"age_years", .integer, true⟩), ("id", ⟨"user_id", .bigint, false⟩)] =
        some known at hknown
    simp only [SortedMap.lookupEntry] at hknown
    split at hknown
    · cases hknown
      cases hnullable
    · split at hknown
      · cases hknown
        decide
      · cases hknown
  exact ⟨hrow, (plans_knownAge.truth_query hrow _).trans (by decide)⟩

end QueryModel
