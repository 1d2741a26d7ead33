import QueryModel.Json.Record
import QueryModel.Json.Value
import QueryModel.Request.Basic

/-! # Reading requests

A request as it is read from a JSON text. Conditions and operands say of what kind they are in a
member of their own, which may stand anywhere among the others; members that a kind does not know
are passed over. They may also be arrays of the kind and of the values of its members, in their
order.
-/

namespace QueryModel.Request

/-- The value of a member that may stand at most once. -/
def optionalMember? (members : List (String × Json)) (name : String) : Option (Option Json) :=
  match members.filter fun member => member.1 == name with
  | [] => some none
  | [member] => some (some member.2)
  | _ => none

/-- The value of a member that has to stand exactly once. -/
def member? (members : List (String × Json)) (name : String) : Option Json :=
  (optionalMember? members name).bind fun value => value

/-- A string. -/
def text? : Json → Option String
  | .string value => some value
  | _ => none

/-- A string that may be left out or be null. -/
def optionalText? (members : List (String × Json)) (name : String) : Option (Option String) :=
  match optionalMember? members name with
  | none => none
  | some none => some none
  | some (some .null) => some none
  | some (some value) => (text? value).map some

/-- A truth value, which is false when it is left out. -/
def flag? (members : List (String × Json)) (name : String) : Option Bool :=
  match optionalMember? members name with
  | some none => some false
  | some (some (.boolean value)) => some value
  | _ => none

/-- The items of an array. -/
def items? : Json → Option (List Json)
  | .array items => some items
  | _ => none

/-- A name among several, given as a string or as an object with that name for its only member and
nothing in it. -/
def choice? {α : Type} (ofName? : String → Option α) : Json → Option α
  | .string name => ofName? name
  | .object [(name, .null)] => ofName? name
  | .object [(name, .object [])] => ofName? name
  | _ => none

/-- A kind of conditions or of operands. -/
structure Kind where
  name : String
  /-- The names of the members, in their order. -/
  fields : List String

/-- The kinds of conditions, in their order. -/
def conditionKinds : List Kind :=
  [⟨"and", ["expressions"]⟩, ⟨"or", ["expressions"]⟩, ⟨"not", ["expression"]⟩,
    ⟨"binary_comparison", ["left", "operator", "right"]⟩, ⟨"is_null", ["value", "negated"]⟩,
    ⟨"between", ["value", "lower", "upper", "negated"]⟩]

/-- The kinds of operands, in their order. -/
def operandKinds : List Kind :=
  [⟨"column", ["name", "alias"]⟩, ⟨"scalar", ["value"]⟩, ⟨"parameter", ["parameter"]⟩,
    ⟨"list", ["values"]⟩]

/-- The kind that a tag names. Inside a condition a kind can also be given by its place among the
kinds, counted from zero. -/
def kind? (kinds : List Kind) (nested : Bool) : Json → Option Kind
  | .string name => kinds.find? fun kind => kind.name == name
  | .number (.integer n) => if nested && 0 ≤ n then kinds[n.toNat]? else none
  | _ => none

/-- The kind of a value, by its name, and the members of the value. In an array the values of the
last members may be left out, and there may be no more values than members. -/
def tagged? (kinds : List Kind) (nested : Bool) :
    Json → Option (String × List (String × Json))
  | .object members => do
    let tag ← member? members "type"
    let kind ← kind? kinds nested tag
    some (kind.name, members)
  | .array (tag :: values) => do
    let kind ← kind? kinds nested tag
    if values.length ≤ kind.fields.length then some (kind.name, kind.fields.zip values) else none
  | _ => none

/-- A parameter: its name, or its position in 32 bits without a sign. -/
def parameter? : Json → Option Parameter
  | .object [("named", .string name)] => some (.named name)
  | .object [("positional", .number (.integer n))] =>
    if 0 ≤ n ∧ n < 4294967296 then some (.positional n.toNat) else none
  | _ => none

/-- An operand, in which lists are nested at most as deep as `depth`. -/
def operand? : Nat → Json → Option Operand
  | 0, _ => none
  | depth + 1, value => do
    let (kind, members) ← tagged? operandKinds true value
    match kind with
    | "column" => do
      let name ← (member? members "name").bind text?
      let aliasName ← optionalText? members "alias"
      some (.column name aliasName)
    | "scalar" => do
      let value ← member? members "value"
      some (.scalar value.canonical)
    | "parameter" => do
      let parameter ← (member? members "parameter").bind parameter?
      some (.parameter parameter)
    | "list" => do
      let items ← (member? members "values").bind items?
      let operands ← items.mapM (operand? depth)
      some (.list operands)
    | _ => none

/-- A condition, in which conditions and operands are nested at most as deep as `depth`. -/
def condition? : Nat → Bool → Json → Option Condition
  | 0, _, _ => none
  | depth + 1, nested, value => do
    let (kind, members) ← tagged? conditionKinds nested value
    match kind with
    | "and" => do
      let items ← (member? members "expressions").bind items?
      let conditions ← items.mapM (condition? depth true)
      some (.and conditions)
    | "or" => do
      let items ← (member? members "expressions").bind items?
      let conditions ← items.mapM (condition? depth true)
      some (.or conditions)
    | "not" => do
      let condition ← (member? members "expression").bind (condition? depth true)
      some (.not condition)
    | "binary_comparison" => do
      let left ← (member? members "left").bind (operand? depth)
      let operator ← (member? members "operator").bind (choice? Operator.ofName?)
      let right ← (member? members "right").bind (operand? depth)
      some (.comparison left operator right)
    | "is_null" => do
      let operand ← (member? members "value").bind (operand? depth)
      let negated ← flag? members "negated"
      some (.isNull operand negated)
    | "between" => do
      let operand ← (member? members "value").bind (operand? depth)
      let lower ← (member? members "lower").bind (operand? depth)
      let upper ← (member? members "upper").bind (operand? depth)
      let negated ← flag? members "negated"
      some (.between operand lower upper negated)
    | _ => none

/-- The fields of a request that have been read. -/
structure Fields where
  entity : Option String
  aliasName : Option String
  predicate : Option (Option Condition)

/-- Read a predicate, which may be null. -/
def readPredicate (document : Json.Document) : Except Nat (Option Condition) :=
  match document.value? (Json.depthLimit - 1) with
  | none => .error document.wrongKind
  | some .null => .ok none
  | some value =>
    match condition? Json.depthLimit false value with
    | none => .error document.line
    | some condition => .ok (some condition)

/-- Read a member of a request. -/
def Fields.read (fields : Fields) (key : Json.Key) (name : String) (document : Json.Document) :
    Except Nat Fields :=
  match name with
  | "entity" => do return { fields with entity := ← Json.fill fields.entity key document.text }
  | "alias" => do
    return { fields with aliasName := ← Json.fill fields.aliasName key document.text }
  | "predicate" => do
    return { fields with predicate := ← Json.fill fields.predicate key (readPredicate document) }
  | _ => do
    document.skip
    return fields

/-- Read a request from a document. -/
def ofDocument (document : Json.Document) : Except Nat Request := do
  let record ← document.record ["entity", "alias", "predicate"]
  let (fields, closing) ← record.fold Fields.read ⟨none, none, none⟩
  return {
    entity := ← Json.require fields.entity closing
    aliasName := ← Json.require fields.aliasName closing
    predicate := fields.predicate.getD none }

/-- The request that a text denotes. -/
def read? (text : String) : Option Request :=
  let reading := Json.read text
  match ofDocument reading.document, reading.trailing with
  | .ok request, none => some request
  | _, _ => none

end QueryModel.Request
