import QueryModel.Configuration.Basic
import QueryModel.Proofs.SortedMap

/-! # Which defect of a configuration is reported

A configuration is checked entity by entity, in the order of their names, and the check of an entity
ends at its first defect. Main statement: a configuration becomes one to plan with exactly if all of
its entities are usable, and otherwise what is reported is the first defect of the least entity that
is not.
-/

namespace QueryModel

namespace Entity

/-- An entity that queries can be planned for: its table has a name, it has attributes, and every
column of theirs has a name. -/
structure IsUsable (entity : Entity) : Prop where
  tableName_ne : entity.tableName ≠ ""
  exists_attribute : ∃ attributeName known, entity.attributes.get? attributeName = some known
  columnName_ne : ∀ attributeName known, entity.attributes.get? attributeName = some known →
    known.columnName ≠ ""

/-- `entity.IsFirstDefect name defect`: the defect is the first one of the entity of that name. A
missing table comes before missing attributes, and of the attributes without a column the least one
is named. -/
inductive IsFirstDefect (name : String) (entity : Entity) : ConfigurationDefect → Prop
  | missingTableName (htable : entity.tableName = "") :
      IsFirstDefect name entity (.missingTableName name)
  | noAttributes (htable : entity.tableName ≠ "")
      (hnone : ∀ attributeName, entity.attributes.get? attributeName = none) :
      IsFirstDefect name entity (.noAttributes name)
  | missingColumnName {attributeName : String} {known : Attribute} (htable : entity.tableName ≠ "")
      (hknown : entity.attributes.get? attributeName = some known)
      (hcolumn : known.columnName = "")
      (hleast : ∀ other < attributeName, ∀ held, entity.attributes.get? other = some held →
        held.columnName ≠ "") :
      IsFirstDefect name entity (.missingColumnName name attributeName)

end Entity

/-- A catalog whose entities are all usable. -/
def Catalog.IsUsable (catalog : Catalog) : Prop :=
  ∀ name entity, catalog.entities.get? name = some entity → entity.IsUsable

namespace ConfigurationFile

section columns

variable (attributes : SortedMap Attribute)

theorem find?_columnless_eq_none_iff :
    attributes.entries.find? (fun entry => entry.2.columnName.isEmpty) = none ↔
      ∀ attributeName known, attributes.get? attributeName = some known → known.columnName ≠ "" := by
  simp only [List.find?_eq_none, Prod.forall, attributes.mem_entries_iff, String.isEmpty_iff, ne_eq]

theorem find?_columnless_eq_some_iff {attributeName : String} {known : Attribute} :
    attributes.entries.find? (fun entry => entry.2.columnName.isEmpty) =
        some (attributeName, known) ↔
      attributes.get? attributeName = some known ∧ known.columnName = "" ∧
        ∀ other < attributeName, ∀ held, attributes.get? other = some held →
          held.columnName ≠ "" := by
  simp only [attributes.find?_entries_eq_some_iff, String.isEmpty_iff, ← Bool.not_eq_true, ne_eq]

end columns

section entity

variable {name : String} {entity : Entity}

theorem entityDefect?_of_tableName_eq (htable : entity.tableName = "") :
    entityDefect? name entity = some (.missingTableName name) :=
  if_pos (String.isEmpty_iff.mpr htable)

theorem entityDefect?_of_isEmpty (htable : entity.tableName ≠ "")
    (hempty : entity.attributes.isEmpty) : entityDefect? name entity = some (.noAttributes name) := by
  rw [entityDefect?, if_neg fun hname => htable (String.isEmpty_iff.mp hname), if_pos hempty]

/-- Where there is a table with attributes, the columns decide. -/
theorem entityDefect?_of_not_isEmpty (htable : entity.tableName ≠ "")
    (hsome : ¬entity.attributes.isEmpty) :
    entityDefect? name entity =
      (entity.attributes.entries.find? fun entry => entry.2.columnName.isEmpty).map fun entry =>
        .missingColumnName name entry.1 := by
  rw [entityDefect?, if_neg fun hname => htable (String.isEmpty_iff.mp hname), if_neg hsome]

theorem entityDefect?_eq_none_iff : entityDefect? name entity = none ↔ entity.IsUsable := by
  have hattributes := entity.attributes.isEmpty_iff
  constructor
  · intro hnone
    by_cases htable : entity.tableName = ""
    · cases (entityDefect?_of_tableName_eq htable).symm.trans hnone
    by_cases hempty : entity.attributes.isEmpty
    · cases (entityDefect?_of_isEmpty htable hempty).symm.trans hnone
    rw [entityDefect?_of_not_isEmpty htable hempty, Option.map_eq_none_iff,
      find?_columnless_eq_none_iff] at hnone
    rw [hattributes, Classical.not_forall] at hempty
    obtain ⟨attributeName, hknown⟩ := hempty
    exact ⟨htable, ⟨attributeName, Option.ne_none_iff_exists'.mp hknown⟩, hnone⟩
  · rintro ⟨htable, ⟨attributeName, known, hknown⟩, hcolumns⟩
    have hsome : ¬entity.attributes.isEmpty := fun hempty => by
      cases (hattributes.mp hempty attributeName).symm.trans hknown
    rw [entityDefect?_of_not_isEmpty htable hsome, Option.map_eq_none_iff]
    exact (find?_columnless_eq_none_iff _).mpr hcolumns

theorem entityDefect?_eq_some_iff {defect : ConfigurationDefect} :
    entityDefect? name entity = some defect ↔ entity.IsFirstDefect name defect := by
  have hattributes := entity.attributes.isEmpty_iff
  constructor
  · intro hdefect
    by_cases htable : entity.tableName = ""
    · cases (entityDefect?_of_tableName_eq htable).symm.trans hdefect
      exact .missingTableName htable
    by_cases hempty : entity.attributes.isEmpty
    · cases (entityDefect?_of_isEmpty htable hempty).symm.trans hdefect
      exact .noAttributes htable (hattributes.mp hempty)
    rw [entityDefect?_of_not_isEmpty htable hempty] at hdefect
    obtain ⟨⟨attributeName, known⟩, hfound, rfl⟩ := Option.map_eq_some_iff.mp hdefect
    obtain ⟨hknown, hcolumn, hleast⟩ := (find?_columnless_eq_some_iff _).mp hfound
    exact .missingColumnName htable hknown hcolumn hleast
  · intro hdefect
    cases hdefect with
    | missingTableName htable => exact entityDefect?_of_tableName_eq htable
    | noAttributes htable hnone => exact entityDefect?_of_isEmpty htable (hattributes.mpr hnone)
    | @missingColumnName attributeName known htable hknown hcolumn hleast =>
      have hsome : ¬entity.attributes.isEmpty := fun hempty => by
        cases (hattributes.mp hempty attributeName).symm.trans hknown
      have hfound := (find?_columnless_eq_some_iff _).mpr ⟨hknown, hcolumn, hleast⟩
      rw [entityDefect?_of_not_isEmpty htable hsome, hfound, Option.map_some]

end entity

section file

variable {file : ConfigurationFile}

theorem defect?_eq_none_iff : file.defect? = none ↔ file.catalog.IsUsable := by
  simp only [defect?, SortedMap.findSome?_entries_eq_none_iff, entityDefect?_eq_none_iff,
    Catalog.IsUsable]

theorem defect?_eq_some_iff {defect : ConfigurationDefect} :
    file.defect? = some defect ↔
      ∃ name entity, file.catalog.entities.get? name = some entity ∧
        entity.IsFirstDefect name defect ∧
          ∀ other < name, ∀ held, file.catalog.entities.get? other = some held → held.IsUsable := by
  simp only [defect?, SortedMap.findSome?_entries_eq_some_iff, entityDefect?_eq_none_iff,
    entityDefect?_eq_some_iff]

theorem toConfiguration_eq_ok_iff {configuration : Configuration} :
    file.toConfiguration = .ok configuration ↔
      file.catalog.IsUsable ∧
        configuration = ⟨file.catalog, file.dialect, file.negationStrategy⟩ := by
  rw [← defect?_eq_none_iff, toConfiguration]
  cases file.defect? with
  | none => simp [eq_comm]
  | some defect => simp

theorem toConfiguration_eq_error_iff {defect : ConfigurationDefect} :
    file.toConfiguration = .error defect ↔ file.defect? = some defect := by
  rw [toConfiguration]
  cases file.defect? with
  | none => simp
  | some found => simp

end file

/-- A configuration is accepted, with its settings as they are, exactly if its catalog is usable, and
is rejected otherwise for the first defect of the least entity that has one. -/
theorem accepts_iff_and_rejects_iff (file : ConfigurationFile) :
    (∀ configuration, file.toConfiguration = .ok configuration ↔
      file.catalog.IsUsable ∧
        configuration = ⟨file.catalog, file.dialect, file.negationStrategy⟩) ∧
    ∀ defect, file.toConfiguration = .error defect ↔
      ∃ name entity, file.catalog.entities.get? name = some entity ∧
        entity.IsFirstDefect name defect ∧
          ∀ other < name, ∀ held, file.catalog.entities.get? other = some held → held.IsUsable := by
  refine ⟨fun configuration => toConfiguration_eq_ok_iff, fun defect => ?_⟩
  rw [toConfiguration_eq_error_iff, defect?_eq_some_iff]

/-- Two entities without a table and one without attributes: the least name decides. -/
example :
    let file : ConfigurationFile := ⟨none, .postgres, .wrap, ⟨.ofList
      [("c", ⟨"", "", ∅⟩), ("b", ⟨"", "table", ∅⟩), ("d", ⟨"", "", ∅⟩)]⟩⟩
    file.toConfiguration = .error (.noAttributes "b") := rfl

end ConfigurationFile

end QueryModel
