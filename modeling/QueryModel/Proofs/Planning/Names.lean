import QueryModel.Proofs.Configuration.Defects
import QueryModel.Proofs.Planning.Unambiguous
import QueryModel.Proofs.Sql.Names

/-! # The names in a plan

Every name in the text of a plan is the alias of the request or comes from the catalog. Main
statement: under a configuration that has been checked, the table and every column have a name; the
schema is not checked, and has a name in the text exactly if it has one in the catalog.
-/

namespace QueryModel

namespace Sql

/-! ## Roles of names -/

/-- What the names in the text of a selection stand for. -/
structure NameRoles where
  schema : String
  table : String
  /-- The name that is given to the table. -/
  aliasName : String
  columns : List String

/-- `roles.AreIn text`: the text names the table of the schema, then its alias, then the columns of
the table, and nothing else. -/
def NameRoles.AreIn (roles : NameRoles) (text : String) : Prop :=
  namesIn text = [roles.schema, roles.table] :: [roles.aliasName] ::
    roles.columns.map fun column => [roles.aliasName, column]

/-- Whatever the names in a text stand for, the first one is that of the schema. -/
theorem NameRoles.AreIn.schema_eq {roles others : NameRoles} {text : String}
    (hroles : roles.AreIn text) (hothers : others.AreIn text) : roles.schema = others.schema := by
  have hnames := hroles.symm.trans hothers
  exact List.head_eq_of_cons_eq (List.head_eq_of_cons_eq hnames)

/-- A text in which the schema, the table and all columns have names. -/
def NamesEverything (text : String) : Prop :=
  ∃ roles : NameRoles, roles.AreIn text ∧ roles.schema ≠ "" ∧ roles.table ≠ "" ∧
    ∀ column ∈ roles.columns, column ≠ ""

/-- The operators of values are neither in quotes nor followed by numerals. -/
theorem Expression.HasKnownOperators.isUnmarked {expression : Expression}
    (hknown : expression.HasKnownOperators) :
    ∀ operator ∈ expression.operators, IsUnmarked operator.toList := by
  induction hknown with
  | and _ _ ihleft ihright => exact List.forall_mem_append.mpr ⟨ihleft, ihright⟩
  | or _ _ ihleft ihright => exact List.forall_mem_append.mpr ⟨ihleft, ihright⟩
  | not _ ih => exact ih
  | binary operator hsingle htext _ _ ihleft ihright =>
    have hoperator : IsUnmarked operator.sql.toList := by cases operator <;> decide
    subst htext
    exact List.forall_mem_cons.mpr ⟨hoperator, List.forall_mem_append.mpr ⟨ihleft, ihright⟩⟩
  | membership negated _ _ ihleft ihitems =>
    refine List.forall_mem_append.mpr ⟨ihleft, ?_⟩
    rw [itemOperators_eq_flatMap, List.forall_mem_flatMap]
    exact ihitems
  | nullness negated _ ih => exact ih
  | between negated _ _ _ ih ihlower ihupper =>
    exact List.forall_mem_append.mpr ⟨ih, List.forall_mem_append.mpr ⟨ihlower, ihupper⟩⟩
  | column table name => exact List.forall_mem_nil _
  | value value => exact List.forall_mem_nil _

end Sql

/-! ## Columns -/

namespace TableContext

variable {context : TableContext}

/-- A column of the table that is selected from, which holds a known attribute. -/
def HoldsAttribute (context : TableContext) (column : Sql.TableReference × String) : Prop :=
  column.1 = .aliased context.tableAlias ∧ ∃ attributeName known,
    context.catalog.attribute? context.root.entity attributeName = some known ∧
      column.2 = known.columnName

theorem holdsAttribute_scalar {scalar : Scalar} {value : Sql.Expression}
    (hvalue : context.scalar scalar = .ok value) :
    ∀ column ∈ value.columns, context.HoldsAttribute column := by
  unfold TableContext.scalar at hvalue
  split at hvalue
  · cases hvalue
    exact List.forall_mem_nil _
  · cases hvalue
    exact List.forall_mem_nil _
  · next root attributeName _ =>
    obtain ⟨-, known, hknown, rfl⟩ := column_eq_ok hvalue
    rw [Sql.Expression.columns, List.forall_mem_singleton]
    exact ⟨rfl, attributeName, known, Catalog.attributeOf_eq_ok_iff.mp hknown, rfl⟩

theorem holdsAttribute_scalars {scalars : List Scalar} {items : List Sql.Expression}
    (hitems : scalars.mapM context.scalar = .ok items) :
    ∀ column ∈ Sql.Expression.itemColumns items, context.HoldsAttribute column := by
  rw [Sql.Expression.itemColumns_eq_flatMap, List.forall_mem_flatMap]
  replace hitems := Except.forall₂_of_mapM_eq_ok hitems
  induction hitems with
  | nil => exact List.forall_mem_nil _
  | cons hitem _ ih => exact List.forall_mem_cons.mpr ⟨holdsAttribute_scalar hitem, ih⟩

/-- Every column of what becomes of a predicate holds a known attribute. -/
theorem Translates.holdsAttribute {predicate : Predicate} {truth : Sql.Expression}
    (htranslates : context.Translates predicate truth) :
    ∀ column ∈ truth.columns, context.HoldsAttribute column := by
  induction htranslates with
  | comparison id operator hleft hright =>
    exact List.forall_mem_append.mpr ⟨holdsAttribute_scalar hleft, holdsAttribute_scalar hright⟩
  | membership id negated hleft hright =>
    exact List.forall_mem_append.mpr ⟨holdsAttribute_scalar hleft, holdsAttribute_scalars hright⟩
  | and id _ _ ihleft ihright => exact List.forall_mem_append.mpr ⟨ihleft, ihright⟩
  | or id _ _ ihleft ihright => exact List.forall_mem_append.mpr ⟨ihleft, ihright⟩
  | negation id _ ih => exact ih
  | decidedNullness id negated hoperand hnever => cases negated <;> exact List.forall_mem_nil _
  | nullness id negated hoperand hnever =>
    have hcolumns := holdsAttribute_scalar hoperand
    exact hcolumns
  | between id negated hoperand hlower hupper =>
    have hbounds :=
      List.forall_mem_append.mpr ⟨holdsAttribute_scalar hlower, holdsAttribute_scalar hupper⟩
    exact List.forall_mem_append.mpr ⟨holdsAttribute_scalar hoperand, hbounds⟩

theorem TranslatesOptional.holdsAttribute {predicate : Option Predicate} {truth : Sql.Expression}
    (htranslates : context.TranslatesOptional predicate truth) :
    ∀ column ∈ truth.columns, context.HoldsAttribute column := by
  cases htranslates with
  | none => exact List.forall_mem_nil _
  | some htranslates => exact htranslates.holdsAttribute

end TableContext

/-! ## Plans -/

/-- `entity.Provides roles`: the names of the schema, the table and the columns are those of the
entity and of its attributes. -/
structure Entity.Provides (entity : Entity) (roles : Sql.NameRoles) : Prop where
  schema_eq : roles.schema = entity.schemaName
  table_eq : roles.table = entity.tableName
  exists_attribute : ∀ column ∈ roles.columns, ∃ attributeName known,
    entity.attributes.get? attributeName = some known ∧ column = known.columnName

/-- Apart from the alias of the request, the names in the text of a plan are those of the entity that
is asked for. -/
theorem Configuration.Plans.exists_roles {configuration : Configuration} {request : Request}
    {prepared : PreparedQuery} {plan : Plan} (hplan : configuration.Plans request prepared plan) :
    ∃ entity roles, configuration.catalog.entities.get? request.entity = some entity ∧
      entity.Provides roles ∧ roles.aliasName = request.aliasName ∧
        roles.AreIn plan.query.sql.text := by
  have hnames := Sql.Select.namesIn_sql hplan.hasKnownOperators.isUnmarked
  obtain ⟨statement, store, -, -, hroot, hisOf⟩ := hplan.exists_statement
  obtain ⟨entity, hentity, hsource, htranslates⟩ := Statement.select_eq_ok hisOf.select_eq
  rw [hroot, Catalog.entity_eq_ok_iff] at hentity
  have hcolumns := htranslates.holdsAttribute
  refine ⟨entity, ⟨entity.schemaName, entity.tableName, request.aliasName,
    plan.query.restriction.columns.map Prod.snd⟩, hentity, ⟨rfl, rfl, ?_⟩, rfl, ?_⟩
  · rw [List.forall_mem_map]
    intro column hcolumn
    obtain ⟨-, attributeName, known, hknown, hname⟩ := hcolumns column hcolumn
    rw [Statement.tableContext, hroot, Catalog.attribute?, hentity, Option.bind_some] at hknown
    exact ⟨attributeName, known, hknown, hname⟩
  · have hcolumnNames : plan.query.restriction.columns.map Sql.columnNames =
        (plan.query.restriction.columns.map Prod.snd).map fun name => [request.aliasName, name] := by
      rw [List.map_map]
      refine List.map_congr_left fun column hcolumn => ?_
      have htable := (hcolumns column hcolumn).1
      rw [Statement.tableContext, hroot] at htable
      rw [Sql.columnNames, htable]
      rfl
    rw [Sql.NameRoles.AreIn, hnames, Sql.Select.names, hsource, hroot, hcolumnNames]
    rfl

/-- A plan under a configuration that was accepted names the table and every column, and the schema
exactly if the entity has a schema with a name. -/
theorem ConfigurationFile.namesEverything_iff {file : ConfigurationFile}
    {configuration : Configuration} {request : Request} {prepared : PreparedQuery} {plan : Plan}
    (haccepted : file.toConfiguration = .ok configuration)
    (hplan : configuration.Plans request prepared plan) :
    ∃ (entity : Entity) (roles : Sql.NameRoles),
      file.catalog.entities.get? request.entity = some entity ∧
      roles.AreIn plan.query.sql.text ∧ roles.table ≠ "" ∧ (∀ column ∈ roles.columns, column ≠ "") ∧
        (Sql.NamesEverything plan.query.sql.text ↔ entity.schemaName ≠ "") := by
  obtain ⟨husable, rfl⟩ := toConfiguration_eq_ok_iff.mp haccepted
  obtain ⟨entity, roles, hentity, hprovides, -, hroles⟩ := hplan.exists_roles
  have hentityUsable := husable _ _ hentity
  have htable : roles.table ≠ "" := hprovides.table_eq ▸ hentityUsable.tableName_ne
  have hcolumns : ∀ column ∈ roles.columns, column ≠ "" := by
    intro column hcolumn
    obtain ⟨attributeName, known, hknown, rfl⟩ := hprovides.exists_attribute column hcolumn
    exact hentityUsable.columnName_ne _ _ hknown
  refine ⟨entity, roles, hentity, hroles, htable, hcolumns, ?_⟩
  rw [← hprovides.schema_eq]
  constructor
  · rintro ⟨others, hothers, hschema, -⟩
    rwa [hroles.schema_eq hothers]
  · exact fun hschema => ⟨roles, hroles, hschema, htable, hcolumns⟩

/-! ## A schema with and without a name -/

/-- Items with a price, in a table of a schema. -/
def itemsFile (schemaName : String) : ConfigurationFile where
  schema := none
  dialect := .postgres
  negationStrategy := .wrap
  catalog :=
    ⟨.ofList [("Item", ⟨schemaName, "item", .ofList [("price", ⟨"price", .bigint, true⟩)]⟩)]⟩

/-- What items are planned with. -/
def itemsConfiguration (schemaName : String) : Configuration :=
  ⟨(itemsFile schemaName).catalog, .postgres, .wrap⟩

/-- Items whose price is known. -/
def pricedRequest : Request where
  entity := "Item"
  aliasName := "i"
  predicate := some (.isNull (.column "price" none) true)

/-- The text of a plan of items in a schema with a name. -/
theorem namesEverything_items :
    (itemsFile "public").toConfiguration = .ok (itemsConfiguration "public") ∧
      ∃ prepared plan, (itemsConfiguration "public").Plans pricedRequest prepared plan ∧
        plan.query.sql.text =
          "SELECT * FROM \"public\".\"item\" AS \"i\" WHERE (\"i\".\"price\" IS NOT NULL)" ∧
        Sql.NamesEverything plan.query.sql.text := by
  have haccepted : (itemsFile "public").toConfiguration = .ok (itemsConfiguration "public") := rfl
  have hplan : (itemsConfiguration "public").Plans pricedRequest _ _ := .of_planned 0 rfl rfl
  obtain ⟨entity, roles, hentity, -, -, -, hnames⟩ :=
    ConfigurationFile.namesEverything_iff haccepted hplan
  refine ⟨haccepted, _, _, hplan, rfl, hnames.mpr ?_⟩
  cases hentity
  decide

/-- A configuration without a name for a schema is accepted, and its plans name the empty schema. -/
theorem not_forall_namesEverything :
    ¬∀ (file : ConfigurationFile) (configuration : Configuration) (request : Request)
      (prepared : PreparedQuery) (plan : Plan), file.toConfiguration = .ok configuration →
        configuration.Plans request prepared plan → Sql.NamesEverything plan.query.sql.text := by
  intro hall
  have hplan : (itemsConfiguration "").Plans pricedRequest _ _ := .of_planned 0 rfl rfl
  obtain ⟨roles, hroles, hschema, -⟩ := hall (itemsFile "") _ _ _ _ rfl hplan
  have hnames : Sql.NameRoles.AreIn ⟨"", "item", "i", ["price"]⟩
      "SELECT * FROM \"\".\"item\" AS \"i\" WHERE (\"i\".\"price\" IS NOT NULL)" := by
    unfold Sql.NameRoles.AreIn
    decide
  exact hschema (hroles.schema_eq hnames)

end QueryModel
