import QueryModel.Planning.Literal
import QueryModel.Request.Basic

/-! # Analysis

A request is analysed into a query tree, and checked against the catalog on the way: what it names
has to be known, its operators have to suit the types on their left, and its values have to fit the
types they are compared with.
-/

namespace QueryModel

/-- A known entity. -/
def Catalog.entity (catalog : Catalog) (entityName : String) : Except PlanError Entity :=
  match catalog.entities.get? entityName with
  | some entity => .ok entity
  | none => .error (.entityNotFound entityName)

/-- A known attribute of a known entity. -/
def Catalog.attributeOf (catalog : Catalog) (entityName attributeName : String) :
    Except PlanError Attribute := do
  let entity ← catalog.entity entityName
  match entity.attributes.get? attributeName with
  | some known => .ok known
  | none => .error (.attributeNotFound attributeName entityName)

namespace Building

/-- A computation that builds no node. -/
def check {ε α : Type} (result : Except ε α) : Building ε α := fun next =>
  result.map fun value => (value, next)

/-- Build a node for a plan. -/
def forPlan {α : Type} (build : Building ConstructionError α) : Building PlanError α :=
  build.mapError .construction

end Building

namespace Analysis

/-- The literal of a value, of the expected type if one is expected. -/
def literal (value : Json) (expected : Option ScalarType) : Building PlanError Scalar :=
  match expected with
  | none | some .any => do
    let literal ← Building.check (value.literal .any)
    (Building.literal literal).forPlan
  | some type => do
    let literal ← Building.check (value.literal type)
    (Building.typedLiteral literal type).forPlan

/-- An attribute of the root, called by its alias or by none. -/
def column (catalog : Catalog) (root : Root) (name : String) (aliasName : Option String) :
    Building PlanError Scalar := do
  match aliasName with
  | none => pure ()
  | some aliasName =>
    if aliasName = root.aliasName then pure ()
    else Building.fail (.unknownRootAlias aliasName root.aliasName)
  let _ ← Building.check (catalog.attributeOf root.entity name)
  Building.path catalog root name

mutual

/-- An operand. What has no type of its own takes the one that is expected. -/
def operand (catalog : Catalog) (root : Root) (expected : Option ScalarType) :
    Request.Operand → Building PlanError Expression
  | .column name aliasName => return .scalar (← column catalog root name aliasName)
  | .scalar value => return .scalar (← literal value expected)
  | .parameter parameter =>
    return .scalar (← Building.parameter parameter (expected.getD .any))
  | .list values => do
    let elements ← operands catalog root expected values
    return .list (← (Building.list elements).forPlan)
termination_by structural value => value

/-- Operands, in order. -/
def operands (catalog : Catalog) (root : Root) (expected : Option ScalarType) :
    List Request.Operand → Building PlanError (List Expression)
  | [] => return []
  | value :: rest => do
    let element ← operand catalog root expected value
    let elements ← operands catalog root expected rest
    return element :: elements
termination_by structural values => values

end

/-- Check that an operator suits the type on its left. -/
def checkOperator (operator : Operator) (type : ScalarType) : Except PlanError Unit :=
  if operator ∈ type.operators then .ok () else .error (.operatorNotSupported operator type)

mutual

/-- A condition. -/
def condition (catalog : Catalog) (root : Root) : Request.Condition → Building PlanError Predicate
  | .and parts => do
    let predicates ← conditions catalog root parts
    (Building.junctionAll .and predicates).forPlan
  | .or parts => do
    let predicates ← conditions catalog root parts
    (Building.junctionAll .or predicates).forPlan
  | .not part => do
    let inner ← condition catalog root part
    Building.negation inner
  | .comparison left operator right => do
    let left ← operand catalog root none left
    Building.check (checkOperator operator left.type)
    let right ← operand catalog root (some left.type) right
    (Building.comparison left operator right).forPlan
  | .isNull value negated => do
    let value ← operand catalog root none value
    (Building.nullness value negated).forPlan
  | .between value lower upper negated => do
    let value ← operand catalog root none value
    let lower ← operand catalog root (some value.type) lower
    let upper ← operand catalog root (some value.type) upper
    (Building.between value lower upper negated).forPlan
termination_by structural part => part

/-- Conditions, in order. -/
def conditions (catalog : Catalog) (root : Root) :
    List Request.Condition → Building PlanError (List Predicate)
  | [] => return []
  | part :: rest => do
    let predicate ← condition catalog root part
    let predicates ← conditions catalog root rest
    return predicate :: predicates
termination_by structural parts => parts

end

end Analysis

/-- The statement that a request describes. -/
def Request.analyse (request : Request) (catalog : Catalog) : Building PlanError Statement := do
  let _ ← Building.check (catalog.entity request.entity)
  let root : Root := ⟨request.entity, request.aliasName⟩
  match request.predicate with
  | none => return ⟨root, none⟩
  | some part => return ⟨root, some (← Analysis.condition catalog root part)⟩

end QueryModel
