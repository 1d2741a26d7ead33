import QueryModel.Catalog.ScalarType
import QueryModel.SortedMap

/-! # Entities

The entities that queries are written against: the table each is stored in, and the column, the
type and the nullability of each of its attributes.
-/

namespace QueryModel

/-- An attribute of an entity. -/
structure Attribute where
  /-- The column that holds the attribute. -/
  columnName : String
  /-- The type of its values. -/
  type : ScalarType
  /-- Whether the column can hold nulls. -/
  nullable : Bool
deriving DecidableEq

/-- An entity and the table it is stored in. -/
structure Entity where
  schemaName : String
  tableName : String
  attributes : SortedMap Attribute
deriving DecidableEq

/-- The entities that are known, by name. -/
structure Catalog where
  entities : SortedMap Entity
deriving DecidableEq

namespace Catalog

/-- The catalog without entities. -/
def empty : Catalog := ⟨∅⟩

/-- An attribute of an entity, if both are known. -/
def attribute? (catalog : Catalog) (entityName attributeName : String) : Option Attribute :=
  (catalog.entities.get? entityName).bind fun entity => entity.attributes.get? attributeName

/-- The type of an attribute; nothing is known about the values of an unknown one. -/
def attributeType (catalog : Catalog) (entityName attributeName : String) : ScalarType :=
  ((catalog.attribute? entityName attributeName).map Attribute.type).getD .any

end Catalog

end QueryModel
