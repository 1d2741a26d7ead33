import QueryModel.Configuration.Basic
import QueryModel.Json.Record

/-! # Reading configurations

A configuration as it is read from a JSON text. What cannot be read is reported by the line of the
text at which reading it fails; members that are not known are passed over.
-/

namespace QueryModel.ConfigurationFile

/-- The version of the format that is read and written. -/
inductive Version where
  | one
deriving DecidableEq

/-- The name of a version. -/
def Version.name : Version → String
  | .one => "1"

/-- The version of a name. -/
def Version.ofName? (name : String) : Option Version :=
  if name = Version.one.name then some .one else none

/-- The name of what a column can hold. -/
def nullableName (nullable : Bool) : String := if nullable then "Nullable" else "NonNullable"

/-- Whether a column can hold nulls, by name. -/
def nullableOfName? (name : String) : Option Bool :=
  [true, false].find? fun nullable => nullableName nullable == name

/-- The fields of an attribute that have been read. -/
structure AttributeFields where
  columnName : Option String
  type : Option ScalarType
  nullable : Option Bool

/-- Read a member of an attribute. -/
def AttributeFields.read (fields : AttributeFields) (key : Json.Key) (name : String)
    (document : Json.Document) : Except Nat AttributeFields :=
  match name with
  | "columnName" => do
    return { fields with columnName := ← Json.fill fields.columnName key document.text }
  | "type" => do
    return { fields with
      type := ← Json.fill fields.type key (document.choice ScalarType.ofName?) }
  | "nullable" => do
    return { fields with
      nullable := ← Json.fill fields.nullable key (document.choice nullableOfName?) }
  | _ => do
    document.skip
    return fields

/-- Read an attribute. Its column can hold nulls unless the contrary is said. -/
def readAttribute (document : Json.Document) : Except Nat Attribute := do
  let record ← document.record ["columnName", "type", "nullable"]
  let (fields, closing) ← record.fold AttributeFields.read ⟨none, none, none⟩
  return {
    columnName := ← Json.require fields.columnName closing
    type := ← Json.require fields.type closing
    nullable := fields.nullable.getD true }

/-- The fields of an entity that have been read. -/
structure EntityFields where
  schemaName : Option String
  tableName : Option String
  attributes : Option (SortedMap Attribute)

/-- Read a member of an entity. -/
def EntityFields.read (fields : EntityFields) (key : Json.Key) (name : String)
    (document : Json.Document) : Except Nat EntityFields :=
  match name with
  | "schemaName" => do
    return { fields with schemaName := ← Json.fill fields.schemaName key document.text }
  | "tableName" => do
    return { fields with tableName := ← Json.fill fields.tableName key document.text }
  | "attributes" => do
    return { fields with
      attributes := ← Json.fill fields.attributes key (document.map readAttribute) }
  | _ => do
    document.skip
    return fields

/-- Read an entity. -/
def readEntity (document : Json.Document) : Except Nat Entity := do
  let record ← document.record ["schemaName", "tableName", "attributes"]
  let (fields, closing) ← record.fold EntityFields.read ⟨none, none, none⟩
  return {
    schemaName := ← Json.require fields.schemaName closing
    tableName := ← Json.require fields.tableName closing
    attributes := ← Json.require fields.attributes closing }

/-- Read the only member of a catalog that is known. -/
def readEntities (held : Option (SortedMap Entity)) (key : Json.Key) (name : String)
    (document : Json.Document) : Except Nat (Option (SortedMap Entity)) :=
  match name with
  | "entities" => Json.fill held key (document.map readEntity)
  | _ => do
    document.skip
    return held

/-- Read a catalog. -/
def readCatalog (document : Json.Document) : Except Nat Catalog := do
  let record ← document.record ["entities"]
  let (entities, closing) ← record.fold readEntities none
  return ⟨← Json.require entities closing⟩

/-- The fields of a configuration that have been read. -/
structure Fields where
  schema : Option (Option String)
  version : Option Version
  dialect : Option Dialect
  negationStrategy : Option NegationStrategy
  catalog : Option Catalog

/-- Read a member of a configuration. -/
def Fields.read (fields : Fields) (key : Json.Key) (name : String) (document : Json.Document) :
    Except Nat Fields :=
  match name with
  | "$schema" => do
    return { fields with
      schema := ← Json.fill fields.schema key (document.nullable Json.Document.text) }
  | "version" => do
    return { fields with
      version := ← Json.fill fields.version key (document.choice Version.ofName?) }
  | "dialect" => do
    return { fields with
      dialect := ← Json.fill fields.dialect key (document.choice Dialect.ofName?) }
  | "negationStrategy" => do
    return { fields with
      negationStrategy :=
        ← Json.fill fields.negationStrategy key (document.choice NegationStrategy.ofName?) }
  | "metadata" => do
    return { fields with catalog := ← Json.fill fields.catalog key (readCatalog document) }
  | _ => do
    document.skip
    return fields

/-- Read a configuration from a document. Everything but the version may be left out. -/
def ofDocument (document : Json.Document) : Except Nat ConfigurationFile := do
  let record ←
    document.record ["$schema", "version", "dialect", "negationStrategy", "metadata"]
  let (fields, closing) ← record.fold Fields.read ⟨none, none, none, none, none⟩
  let _ ← Json.require fields.version closing
  return {
    schema := fields.schema.getD none
    dialect := fields.dialect.getD .postgres
    negationStrategy := fields.negationStrategy.getD .wrap
    catalog := fields.catalog.getD .empty }

/-- The configuration that a text denotes, or the line at which reading it fails. -/
def read (text : String) : Except Nat ConfigurationFile := do
  let reading := Json.read text
  let file ← ofDocument reading.document
  match reading.trailing with
  | none => return file
  | some line => .error line

end QueryModel.ConfigurationFile
