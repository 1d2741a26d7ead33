import QueryModel.Catalog.Entity

/-! # Configurations

What queries are planned with: the catalog of entities, the SQL dialect, and what becomes of
negations. A configuration that is read from a file is checked before it is used.
-/

namespace QueryModel

/-- The dialect of the SQL that queries are translated to. -/
inductive Dialect where
  | postgres
  /-- A dialect in which patterns cannot be matched without regard to case. -/
  | bigQuery
deriving DecidableEq

namespace Dialect

/-- The name of a dialect. -/
def name : Dialect → String
  | .postgres => "postgres"
  | .bigQuery => "bigquery"

/-- The dialect of a name. -/
def ofName? (name : String) : Option Dialect :=
  [Dialect.postgres, .bigQuery].find? fun dialect => dialect.name == name

/-- Whether a dialect has an operator. -/
def supports (dialect : Dialect) (operator : Operator) : Bool :=
  match dialect with
  | .postgres => true
  | .bigQuery => !operator.ignoresCase

end Dialect

/-- What becomes of the negations of a query. -/
inductive NegationStrategy where
  /-- They stay where they were written. -/
  | wrap
  /-- They are pushed down to the leaves. -/
  | distribute
deriving DecidableEq

namespace NegationStrategy

/-- The name of a strategy. -/
def name : NegationStrategy → String
  | .wrap => "wrap"
  | .distribute => "distribute"

/-- The strategy of a name. -/
def ofName? (name : String) : Option NegationStrategy :=
  [NegationStrategy.wrap, .distribute].find? fun strategy => strategy.name == name

end NegationStrategy

/-- A configuration as it is kept in a file. -/
structure ConfigurationFile where
  /-- Where the JSON schema of the file is found. -/
  schema : Option String
  dialect : Dialect
  negationStrategy : NegationStrategy
  catalog : Catalog
deriving DecidableEq

/-- A configuration that queries can be planned with. -/
structure Configuration where
  catalog : Catalog
  dialect : Dialect
  negationStrategy : NegationStrategy
deriving DecidableEq

/-- What makes a configuration unusable. -/
inductive ConfigurationDefect where
  | missingTableName (entity : String)
  | noAttributes (entity : String)
  | missingColumnName (entity attributeName : String)
deriving DecidableEq

/-- The message of a defect. -/
def ConfigurationDefect.message : ConfigurationDefect → String
  | .missingTableName entity => "entity '" ++ entity ++ "' has no table name"
  | .noAttributes entity => "entity '" ++ entity ++ "' has no attributes"
  | .missingColumnName entity attributeName =>
    "attribute '" ++ attributeName ++ "' of entity '" ++ entity ++ "' has no column name"

namespace ConfigurationFile

/-- The first defect of an entity. -/
def entityDefect? (name : String) (entity : Entity) : Option ConfigurationDefect :=
  if entity.tableName.isEmpty then some (.missingTableName name)
  else if entity.attributes.isEmpty then some (.noAttributes name)
  else
    (entity.attributes.entries.find? fun entry => entry.2.columnName.isEmpty).map fun entry =>
      .missingColumnName name entry.1

/-- The first defect of a configuration, entities taken in the order of their names. -/
def defect? (file : ConfigurationFile) : Option ConfigurationDefect :=
  file.catalog.entities.entries.findSome? fun entry => entityDefect? entry.1 entry.2

/-- The configuration to plan with, if it has no defect. -/
def toConfiguration (file : ConfigurationFile) : Except ConfigurationDefect Configuration :=
  match file.defect? with
  | some defect => .error defect
  | none => .ok ⟨file.catalog, file.dialect, file.negationStrategy⟩

/-- The configuration to begin with, which knows no entities. -/
def initial : ConfigurationFile := ⟨some "schema.json", .postgres, .wrap, .empty⟩

end ConfigurationFile

end QueryModel
