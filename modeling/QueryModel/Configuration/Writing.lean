import QueryModel.Configuration.Reading
import QueryModel.Json.Printer

/-! # Writing configurations

A configuration as a JSON text in indented lines, with everything in it spelled out.
-/

namespace QueryModel.ConfigurationFile

/-- An attribute as a JSON value. -/
def attributeJson (known : Attribute) : Json :=
  .object [
    ("columnName", .string known.columnName),
    ("type", .string known.type.name),
    ("nullable", .string (nullableName known.nullable))]

/-- A map as a JSON value. -/
def mapJson {α : Type} (toJson : α → Json) (map : SortedMap α) : Json :=
  .object (map.entries.map fun entry => (entry.1, toJson entry.2))

/-- An entity as a JSON value. -/
def entityJson (entity : Entity) : Json :=
  .object [
    ("schemaName", .string entity.schemaName),
    ("tableName", .string entity.tableName),
    ("attributes", mapJson attributeJson entity.attributes)]

/-- A catalog as a JSON value. -/
def catalogJson (catalog : Catalog) : Json :=
  .singleton "entities" (mapJson entityJson catalog.entities)

/-- Where the JSON schema is found, if that is known. -/
def schemaMembers : Option String → List (String × Json)
  | none => []
  | some schema => [("$schema", .string schema)]

/-- A configuration as a JSON value. -/
def toJson (file : ConfigurationFile) : Json :=
  .object (schemaMembers file.schema ++ [
    ("version", .string Version.one.name),
    ("dialect", .string file.dialect.name),
    ("negationStrategy", .string file.negationStrategy.name),
    ("metadata", catalogJson file.catalog)])

/-- A JSON value as the text of a file, which ends in a line break. -/
def fileText (value : Json) : String := value.pretty ++ "\n"

/-- The text of a configuration. -/
def write (file : ConfigurationFile) : String := fileText file.toJson

end QueryModel.ConfigurationFile
