import QueryModel.Configuration.Writing
import QueryModel.Json.Schema

/-! # The JSON schema of configurations

The schema that is written beside every configuration.
-/

namespace QueryModel.ConfigurationFile

/-- The schemas that the schema of configurations names. -/
def schemaDefinitions : List (String × Json.Schema) :=
  [("AttributeInfo",
      .record ["columnName", "type"]
        [("columnName", .text),
          ("nullable", .defaulted (.string (nullableName true)) (.reference "Nullable")),
          ("type", .reference "ScalarType")]),
    ("Dialect", .choice ([Dialect.postgres, .bigQuery].map Dialect.name)),
    ("EntitiesInfo", .map (.reference "EntityInfo")),
    ("EntityInfo",
      .record ["attributes", "schemaName", "tableName"]
        [("attributes", .map (.reference "AttributeInfo")), ("schemaName", .text),
          ("tableName", .text)]),
    ("Metadata", .record ["entities"] [("entities", .reference "EntitiesInfo")]),
    ("NegationStrategy", .choice ([NegationStrategy.wrap, .distribute].map NegationStrategy.name)),
    ("Nullable", .choice ([true, false].map nullableName)),
    ("ScalarType", .choice (ScalarType.all.map ScalarType.name)),
    ("Version", .choice [Version.one.name])]

/-- The JSON schema of configurations. -/
def jsonSchema : Json :=
  Json.Schema.titled "ParsedConfiguration"
    (.record ["version"]
      [("$schema", .defaulted .null (.nullable .text)),
        ("dialect", .defaulted (.string Dialect.postgres.name) (.reference "Dialect")),
        ("metadata", .defaulted (catalogJson .empty) (.reference "Metadata")),
        ("negationStrategy",
          .defaulted (.string NegationStrategy.wrap.name) (.reference "NegationStrategy")),
        ("version", .reference "Version")])
    schemaDefinitions

end QueryModel.ConfigurationFile
