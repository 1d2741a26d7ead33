import QueryModel.Json.Basic

/-! # JSON schemas

Descriptions of JSON values, which are JSON values themselves. A schema names others, which are
defined beside it.
-/

namespace QueryModel

/-- A description of JSON values. -/
inductive Json.Schema where
  | anything
  | text
  | truth
  /-- Whole numbers of so many bits, without a sign. -/
  | natural (bits : Nat)
  | choice (names : List String)
  | reference (name : String)
  | list (items : Schema)
  /-- Objects with any names, whose values are all described alike. -/
  | map (values : Schema)
  /-- Objects with certain members, some of which may not be missing. -/
  | record (required : List String) (members : List (String × Schema))
  | nullable (schema : Schema)
  | oneOf (schemas : List Schema)
  /-- What may be left out, and then has a value. -/
  | defaulted (value : Json) (schema : Schema)

namespace Json.Schema

/-- A list of names as a JSON value. -/
def namesJson (names : List String) : Json := .array (names.map .string)

/-- A schema with a member put before the others. -/
def withMember (name : String) (value : Json) : Json → Json
  | .object members => .object ((name, value) :: members)
  | schema => .object [(name, value), ("allOf", .array [schema])]

mutual

/-- A schema as a JSON value. -/
def toJson : Schema → Json
  | .anything => .boolean true
  | .text => .singleton "type" (.string "string")
  | .truth => .singleton "type" (.string "boolean")
  | .natural bits =>
    .object [("type", .string "integer"), ("minimum", .ofNat 0),
      ("maximum", .ofNat (Nat.pow 2 bits - 1))]
  | .choice names => .object [("type", .string "string"), ("enum", namesJson names)]
  | .reference name => .singleton "$ref" (.string ("#/definitions/" ++ name))
  | .list items => .object [("type", .string "array"), ("items", items.toJson)]
  | .map values => .object [("type", .string "object"), ("additionalProperties", values.toJson)]
  | .record required members =>
    .object [("type", .string "object"), ("required", namesJson required),
      ("properties", .object (memberSchemas members))]
  | .nullable schema =>
    .singleton "anyOf" (.array [schema.toJson, .singleton "type" (.string "null")])
  | .oneOf schemas => .singleton "oneOf" (.array (schemasToJson schemas))
  | .defaulted value schema => withMember "default" value schema.toJson
termination_by structural schema => schema

/-- Schemas as JSON values. -/
def schemasToJson : List Schema → List Json
  | [] => []
  | schema :: rest => schema.toJson :: schemasToJson rest
termination_by structural schemas => schemas

/-- The schemas of members as JSON values, with their names. -/
def memberSchemas : List (String × Schema) → List (String × Json)
  | [] => []
  | member :: rest => memberSchema member :: memberSchemas rest
termination_by structural members => members

/-- The schema of a member as a JSON value, with its name. -/
def memberSchema : String × Schema → String × Json
  | (name, schema) => (name, schema.toJson)
termination_by structural member => member

end

/-- A schema under a title, with the definitions of the schemas it names. -/
def titled (title : String) (schema : Schema) (definitions : List (String × Schema)) : Json :=
  let body := withMember "title" (.string title) schema.toJson
  match body with
  | .object members => .object (members ++ [("definitions", .object (memberSchemas definitions))])
  | body => body

end Json.Schema

end QueryModel
