import QueryModel.Binary64.Layout
import QueryModel.Catalog.Entity
import QueryModel.Query.Node

/-! # Building nodes

Every node is built by a function of this module, which gives it an identity that no node had
before. Nodes of the wrong shape are refused: lists stand on the right of membership tests only,
are not empty and are not nested, and a literal is a finite number if it is a number at all.
-/

namespace QueryModel

/-- A place where a list cannot stand. -/
inductive ListPlace where
  | insideList
  | leftOfComparison
  | inNullness
  | inBetween
deriving DecidableEq

/-- A place, as it is named in a message. -/
def ListPlace.text : ListPlace → String
  | .insideList => "inside another list"
  | .leftOfComparison => "on the left-hand side of a comparison"
  | .inNullness => "in a nullness test"
  | .inBetween => "in a between predicate"

/-- Why a node cannot be built from its operands. -/
inductive ConstructionError where
  | listRequired (operator : Operator)
  | unexpectedList (operator : Operator)
  | listNotAllowed (place : ListPlace)
  | emptyList
  | emptyJunction
  | nonFiniteFloat (x : Binary64)
deriving DecidableEq

/-- The message of a construction error. -/
def ConstructionError.message : ConstructionError → String
  | .listRequired operator =>
    "operator " ++ operator.name ++ " requires a list of values on its right-hand side"
  | .unexpectedList operator =>
    "operator " ++ operator.name ++ " does not accept a list of values on its right-hand side"
  | .listNotAllowed place => "a list of values is not allowed " ++ place.text
  | .emptyList => "a list expression requires at least one element"
  | .emptyJunction => "a junction requires at least one predicate"
  | .nonFiniteFloat x =>
    "the float " ++ String.ofList (x.text .plain) ++ " cannot be written as a literal"

/-- A computation that builds nodes: it takes the next identity and leaves the one after the last
it has used, or fails. -/
abbrev Building (ε : Type) := StateT NodeId (Except ε)

namespace Building

/-- An identity that no node has. -/
def fresh {ε : Type} : Building ε NodeId := fun next => .ok (next, next + 1)

/-- Fail. -/
def fail {ε α : Type} (error : ε) : Building ε α := fun _ => .error error

/-- The same computation with its errors as errors of another kind. -/
def mapError {ε δ α : Type} (f : ε → δ) (build : Building ε α) : Building δ α :=
  fun next => (build next).mapError f

/-- A node with a single value. -/
def scalar {ε : Type} (type : ScalarType) (source : Source) : Building ε Scalar := do
  let id ← fresh
  return ⟨id, type, none, source⟩

/-- A literal of a given type. What is not a finite number has no literal. -/
def typedLiteral (value : Value) (type : ScalarType) : Building ConstructionError Scalar :=
  match value with
  | .float x => if x.isFinite then scalar type (.literal (.float x)) else fail (.nonFiniteFloat x)
  | value => scalar type (.literal value)

/-- The type of a value that is compared with nothing. -/
def literalType : Value → ScalarType
  | .null => .any
  | .boolean _ => .boolean
  | .integer _ => .bigint
  | .float _ => .doublePrecision
  | .string _ => .text

/-- A literal, typed after its value. -/
def literal (value : Value) : Building ConstructionError Scalar :=
  typedLiteral value (literalType value)

/-- A parameter of a given type. -/
def parameter {ε : Type} (parameter : Parameter) (type : ScalarType) : Building ε Scalar :=
  scalar type (.parameter parameter)

/-- A path to an attribute of a root, typed by the catalog. -/
def path {ε : Type} (catalog : Catalog) (root : Root) (attributeName : String) :
    Building ε Scalar :=
  scalar (catalog.attributeType root.entity attributeName) (.path root attributeName)

/-- A list of values, typed after its first element. -/
def list (elements : List Expression) : Building ConstructionError ValueList :=
  match elements with
  | [] => fail .emptyList
  | first :: _ =>
    match elements.mapM Expression.scalar? with
    | none => fail (.listNotAllowed .insideList)
    | some scalars => do
      let id ← fresh
      return ⟨id, first.type, none, scalars⟩

/-- The same expression under a name, as another node. The elements of a list are shared. -/
def aliased {ε : Type} (expression : Expression) (aliasName : String) :
    Building ε Expression := do
  let id ← fresh
  return match expression with
    | .scalar node => .scalar { node with id := id, aliasName := some aliasName }
    | .list values => .list { values with id := id, aliasName := some aliasName }

/-- A comparison. Operators on lists need one on their right, and all others refuse one. -/
def comparison (left : Expression) (operator : Operator) (right : Expression) :
    Building ConstructionError Predicate :=
  match left with
  | .list _ => fail (.listNotAllowed .leftOfComparison)
  | .scalar left =>
    if operator.isMultiValued && !right.isList then fail (.listRequired operator)
    else if !operator.isMultiValued && right.isList then fail (.unexpectedList operator)
    else do
      let id ← fresh
      return .comparison id left operator right

/-- A junction of two predicates. -/
def junction {ε : Type} (left : Predicate) (connective : Connective) (right : Predicate) :
    Building ε Predicate := do
  let id ← fresh
  return .junction id left connective right

/-- The predicates joined from the left, in order. -/
def junctionAll (connective : Connective) (predicates : List Predicate) :
    Building ConstructionError Predicate :=
  match predicates with
  | [] => fail .emptyJunction
  | first :: rest => rest.foldlM (fun left right => junction left connective right) first

/-- The negation of a predicate, which is wrapped and not pushed down. -/
def negation {ε : Type} (inner : Predicate) : Building ε Predicate := do
  let id ← fresh
  return .negation id inner

/-- A test for null, or for not null. -/
def nullness (operand : Expression) (negated : Bool) : Building ConstructionError Predicate :=
  match operand with
  | .list _ => fail (.listNotAllowed .inNullness)
  | .scalar operand => do
    let id ← fresh
    return .nullness id operand negated

/-- A test for lying between two bounds, or for not doing so. -/
def between (operand lower upper : Expression) (negated : Bool) :
    Building ConstructionError Predicate :=
  match operand, lower, upper with
  | .scalar operand, .scalar lower, .scalar upper => do
    let id ← fresh
    return .between id operand lower upper negated
  | _, _, _ => fail (.listNotAllowed .inBetween)

end Building

end QueryModel
