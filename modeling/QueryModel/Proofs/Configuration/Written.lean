import QueryModel.Configuration.Writing
import QueryModel.Proofs.Json.Records

/-! # Written configurations are read back

The text of a configuration is read as the configuration that it was written for, whatever the names
in it are.
-/

namespace QueryModel

theorem Dialect.ofName?_name (dialect : Dialect) : ofName? dialect.name = some dialect := by
  cases dialect <;> decide

theorem NegationStrategy.ofName?_name (strategy : NegationStrategy) :
    ofName? strategy.name = some strategy := by
  cases strategy <;> decide

namespace ConfigurationFile

open Json

theorem nullableOfName?_name (nullable : Bool) :
    nullableOfName? (nullableName nullable) = some nullable := by
  cases nullable <;> decide

/-! ## What is in a configuration -/

variable {document : Document}

theorem readAttribute_eq {known : Attribute} (hdocument : document.Holds (attributeJson known)) :
    readAttribute document = .ok known := by
  obtain ⟨documents, closing, hdocuments, hrecord⟩ := hdocument.exists_record_eq
  have hcolumnName : Takes AttributeFields.read ⟨none, none, none⟩ "columnName"
      (.string known.columnName) ⟨some known.columnName, none, none⟩ := fun key document hheld => by
    simp only [AttributeFields.read, fill_none hheld.text_eq]
    rfl
  have htype : Takes AttributeFields.read ⟨some known.columnName, none, none⟩ "type"
      (.string known.type.name) ⟨some known.columnName, some known.type, none⟩ :=
    fun key document hheld => by
      simp only [AttributeFields.read, fill_none (hheld.choice_eq (ScalarType.ofName?_name _))]
      rfl
  have hnullable : Takes AttributeFields.read ⟨some known.columnName, some known.type, none⟩
      "nullable" (.string (nullableName known.nullable))
      ⟨some known.columnName, some known.type, some known.nullable⟩ := fun key document hheld => by
    simp only [AttributeFields.read, fill_none (hheld.choice_eq (nullableOfName?_name _))]
    rfl
  have hfold := Record.fold_eq hdocuments
    (.cons hcolumnName (.cons htype (.cons hnullable .nil))) closing
  simp only [readAttribute, hrecord, bind, Except.bind, hfold]
  rfl

theorem readEntity_eq {entity : Entity} (hdocument : document.Holds (entityJson entity)) :
    readEntity document = .ok entity := by
  obtain ⟨documents, closing, hdocuments, hrecord⟩ := hdocument.exists_record_eq
  have hschemaName : Takes EntityFields.read ⟨none, none, none⟩ "schemaName"
      (.string entity.schemaName) ⟨some entity.schemaName, none, none⟩ :=
    fun key document hheld => by
      simp only [EntityFields.read, fill_none hheld.text_eq]
      rfl
  have htableName : Takes EntityFields.read ⟨some entity.schemaName, none, none⟩ "tableName"
      (.string entity.tableName) ⟨some entity.schemaName, some entity.tableName, none⟩ :=
    fun key document hheld => by
      simp only [EntityFields.read, fill_none hheld.text_eq]
      rfl
  have hattributes : Takes EntityFields.read
      ⟨some entity.schemaName, some entity.tableName, none⟩ "attributes"
      (mapJson attributeJson entity.attributes)
      ⟨some entity.schemaName, some entity.tableName, some entity.attributes⟩ :=
    fun key document hheld => by
      have hmap : document.map readAttribute = .ok entity.attributes :=
        hheld.map_eq fun entry _ document hentry => readAttribute_eq hentry
      simp only [EntityFields.read, fill_none hmap]
      rfl
  have hfold := Record.fold_eq hdocuments
    (.cons hschemaName (.cons htableName (.cons hattributes .nil))) closing
  simp only [readEntity, hrecord, bind, Except.bind, hfold]
  rfl

theorem readCatalog_eq {catalog : Catalog} (hdocument : document.Holds (catalogJson catalog)) :
    readCatalog document = .ok catalog := by
  obtain ⟨documents, closing, hdocuments, hrecord⟩ := hdocument.exists_record_eq
  have hentities : Takes readEntities none "entities" (mapJson entityJson catalog.entities)
      (some catalog.entities) := fun key document hheld => by
    have hmap : document.map readEntity = .ok catalog.entities :=
      hheld.map_eq fun entry _ document hentry => readEntity_eq hentry
    exact fill_none hmap key
  have hfold := Record.fold_eq hdocuments (.cons hentities .nil) closing
  simp only [readCatalog, hrecord, bind, Except.bind, hfold]
  rfl

/-! ## Configurations -/

/-- The members behind that of the schema are read alike, whatever has been read of the schema. -/
theorem foldsTo_members (file : ConfigurationFile) (schema : Option (Option String)) :
    FoldsTo Fields.read
      [("version", .string Version.one.name), ("dialect", .string file.dialect.name),
        ("negationStrategy", .string file.negationStrategy.name),
        ("metadata", catalogJson file.catalog)]
      ⟨schema, none, none, none, none⟩
      ⟨schema, some .one, some file.dialect, some file.negationStrategy, some file.catalog⟩ := by
  have hversion : Takes Fields.read ⟨schema, none, none, none, none⟩ "version"
      (.string Version.one.name) ⟨schema, some .one, none, none, none⟩ :=
    fun key document hheld => by
      have hone : Version.ofName? Version.one.name = some .one := by decide
      simp only [Fields.read, fill_none (hheld.choice_eq hone)]
      rfl
  have hdialect : Takes Fields.read ⟨schema, some .one, none, none, none⟩ "dialect"
      (.string file.dialect.name) ⟨schema, some .one, some file.dialect, none, none⟩ :=
    fun key document hheld => by
      simp only [Fields.read, fill_none (hheld.choice_eq (Dialect.ofName?_name _))]
      rfl
  have hstrategy : Takes Fields.read ⟨schema, some .one, some file.dialect, none, none⟩
      "negationStrategy" (.string file.negationStrategy.name)
      ⟨schema, some .one, some file.dialect, some file.negationStrategy, none⟩ :=
    fun key document hheld => by
      simp only [Fields.read, fill_none (hheld.choice_eq (NegationStrategy.ofName?_name _))]
      rfl
  have hcatalog : Takes Fields.read
      ⟨schema, some .one, some file.dialect, some file.negationStrategy, none⟩ "metadata"
      (catalogJson file.catalog)
      ⟨schema, some .one, some file.dialect, some file.negationStrategy, some file.catalog⟩ :=
    fun key document hheld => by
      simp only [Fields.read, fill_none (readCatalog_eq hheld)]
      rfl
  exact .cons hversion (.cons hdialect (.cons hstrategy (.cons hcatalog .nil)))

theorem ofDocument_eq {file : ConfigurationFile} (hdocument : document.Holds file.toJson) :
    ofDocument document = .ok file := by
  obtain ⟨documents, closing, hdocuments, hrecord⟩ := hdocument.exists_record_eq
  obtain ⟨schema, dialect, strategy, catalog⟩ := file
  cases schema with
  | none =>
    have hfold := Record.fold_eq hdocuments (foldsTo_members _ none) closing
    simp only [ofDocument, hrecord, bind, Except.bind, hfold]
    rfl
  | some schema =>
    have hschema : Takes Fields.read ⟨none, none, none, none, none⟩ "$schema" (.string schema)
        ⟨some (some schema), none, none, none, none⟩ := fun key document hheld => by
      simp only [Fields.read, fill_none hheld.nullable_text_eq]
      rfl
    have hfold := Record.fold_eq hdocuments (.cons hschema (foldsTo_members _ _)) closing
    simp only [ofDocument, hrecord, bind, Except.bind, hfold]
    rfl

/-- What is written for a configuration is read as the configuration. -/
theorem read_write (file : ConfigurationFile) : read file.write = .ok file := by
  have htext : Spelled file.toJson.tokens file.write.toList := by
    simpa [write, fileText] using spelled_pretty file.toJson
  obtain ⟨document, hdocument, hread⟩ := exists_read_eq htext
  simp only [read, hread, ofDocument_eq hdocument]
  rfl

end ConfigurationFile

end QueryModel
