import QueryModel.Catalog.ScalarType
import QueryModel.Query.Value

/-! # Query trees

The tree that a query is analysed into. Every node has an identity, and a subtree may stand in
several places: it is then one node, recognised by its identity, and two nodes built alike are two.

What is built is refused if a list stands anywhere but on the right of a comparison, so in every
other place a tree has a scalar: nothing that reads a tree asks there whether it has met a list.
-/

namespace QueryModel

/-- The identity of a node. -/
abbrev NodeId := Nat

/-- The entity that a query selects from, and the name the query calls it by. -/
structure Root where
  entity : String
  aliasName : String
deriving DecidableEq

/-- Where the value of a scalar comes from. -/
inductive Source where
  | literal (value : Value)
  | parameter (parameter : Parameter)
  /-- An attribute of a root. -/
  | path (root : Root) (attributeName : String)
deriving DecidableEq

/-- A node with a single value. -/
structure Scalar where
  id : NodeId
  /-- The type of the value. -/
  type : ScalarType
  /-- The name the value is given, if it is given one. -/
  aliasName : Option String
  source : Source
deriving DecidableEq

/-- A node with a list of values, the right side of a membership test. -/
structure ValueList where
  id : NodeId
  /-- The type of the first value. -/
  type : ScalarType
  aliasName : Option String
  /-- The values, none of which is a list. -/
  elements : List Scalar
deriving DecidableEq

/-- A node that produces a value or a list of values. -/
inductive Expression where
  | scalar (scalar : Scalar)
  | list (list : ValueList)
deriving DecidableEq

namespace Expression

/-- The identity of an expression. -/
def id : Expression → NodeId
  | .scalar node => node.id
  | .list values => values.id

/-- The type of an expression. -/
def type : Expression → ScalarType
  | .scalar node => node.type
  | .list values => values.type

/-- The name an expression is given. -/
def aliasName : Expression → Option String
  | .scalar node => node.aliasName
  | .list values => values.aliasName

/-- Whether an expression is a list. -/
def isList : Expression → Bool
  | .scalar _ => false
  | .list _ => true

/-- The expression as a single value, unless it is a list. -/
def scalar? : Expression → Option Scalar
  | .scalar node => some node
  | .list _ => none

/-- The single values in an expression, from left to right. -/
def leaves : Expression → List Scalar
  | .scalar node => [node]
  | .list values => values.elements

end Expression

/-- What joins the two sides of a junction. -/
inductive Connective where
  | and
  | or
deriving DecidableEq

/-- The connective that takes its place when both sides are negated. -/
def Connective.dual : Connective → Connective
  | .and => .or
  | .or => .and

/-- A node with a truth value. It is never given a name, and has no place for one. -/
inductive Predicate where
  | comparison (id : NodeId) (left : Scalar) (operator : Operator) (right : Expression)
  | junction (id : NodeId) (left : Predicate) (connective : Connective) (right : Predicate)
  | negation (id : NodeId) (inner : Predicate)
  /-- The operand is null, or is not. -/
  | nullness (id : NodeId) (operand : Scalar) (negated : Bool)
  /-- The operand lies between the bounds, or does not. -/
  | between (id : NodeId) (operand lower upper : Scalar) (negated : Bool)

namespace Predicate

/-- The identity of a predicate. -/
def id : Predicate → NodeId
  | .comparison id _ _ _ => id
  | .junction id _ _ _ => id
  | .negation id _ => id
  | .nullness id _ _ => id
  | .between id _ _ _ _ => id

/-- The type of the value of a predicate. -/
def type (_ : Predicate) : ScalarType := .boolean

/-- Whether a predicate is the negated form of another. -/
def isNegated : Predicate → Bool
  | .comparison _ _ _ _ => false
  | .junction _ _ _ _ => false
  | .negation _ _ => true
  | .nullness _ _ negated => negated
  | .between _ _ _ _ negated => negated

/-- The connective of a junction. -/
def connective? : Predicate → Option Connective
  | .junction _ _ connective _ => some connective
  | _ => none

/-- The single values in a predicate, from left to right. -/
def leaves : Predicate → List Scalar
  | .comparison _ left _ right => left :: right.leaves
  | .junction _ left _ right => left.leaves ++ right.leaves
  | .negation _ inner => inner.leaves
  | .nullness _ operand _ => [operand]
  | .between _ operand lower upper _ => [operand, lower, upper]

end Predicate

/-- The direct operands of a predicate, which are all of one sort. -/
inductive Operands where
  | expressions (operands : List Expression)
  | predicates (operands : List Predicate)

/-- The direct operands of a predicate, from left to right. -/
def Predicate.operands : Predicate → Operands
  | .comparison _ left _ right => .expressions [.scalar left, right]
  | .junction _ left _ right => .predicates [left, right]
  | .negation _ inner => .predicates [inner]
  | .nullness _ operand _ => .expressions [.scalar operand]
  | .between _ operand lower upper _ => .expressions [.scalar operand, .scalar lower, .scalar upper]

/-- A node of either sort. -/
inductive Node where
  | expression (tree : Expression)
  | predicate (tree : Predicate)

namespace Node

/-- The identity of a node. -/
def id : Node → NodeId
  | .expression tree => tree.id
  | .predicate tree => tree.id

/-- The direct operands of a node, from left to right. -/
def operands : Node → List Node
  | .expression (.scalar _) => []
  | .expression (.list values) => values.elements.map fun element => .expression (.scalar element)
  | .predicate tree =>
    match tree.operands with
    | .expressions operands => operands.map .expression
    | .predicates operands => operands.map .predicate

end Node

/-- A query over one root, restricted by a predicate or not. -/
structure Statement where
  root : Root
  predicate : Option Predicate

end QueryModel
