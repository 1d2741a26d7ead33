import QueryModel.Configuration.Basic
import QueryModel.Planning.Error
import QueryModel.Query.Copy
import QueryModel.Query.Evaluation
import QueryModel.Query.Outline
import QueryModel.Sql.Buffer

/-! # Sessions

Trees are built and looked at step by step under one configuration. A step names the nodes it works
on, and may give a name to the node it makes; copies are made under contexts that have names too.
-/

namespace QueryModel

/-- What has been made in a session. -/
structure Session where
  configuration : Configuration
  /-- The identity of the next node. -/
  next : NodeId
  nodes : SortedMap Node
  contexts : SortedMap CopyContext
  /-- The numbers that nodes have in outlines. -/
  numbering : Numbering

/-- The session in which nothing has been made. -/
def Session.start (configuration : Configuration) : Session :=
  ⟨configuration, 0, ∅, ∅, .empty⟩

/-- How a node is made. -/
inductive Making where
  /-- A literal, typed after its value unless a type is given. -/
  | literal (value : Value) (type : Option ScalarType)
  | parameter (parameter : Parameter) (type : ScalarType)
  | path (root : Root) (attributeName : String)
  | list (elements : List String)
  | aliased (name aliasName : String)
  /-- A comparison; the operator is missing if none is called as it was called. -/
  | comparison (left right : String) (operator : Option Operator)
  | junction (left : String) (connective : Connective) (right : String)
  | junctionAll (connective : Connective) (names : List String)
  | negation (name : String)
  | nullness (name : String) (negated : Bool)
  | between (operand lower upper : String) (negated : Bool)
  | pushDown (name : String)
  /-- A copy under a context of its own. -/
  | copyTree (name : String)
  | copy (name context : String)

/-- A step of a session. -/
inductive Step where
  /-- Make a node and give it a name. -/
  | make (making : Making) (name : String)
  /-- Copy a statement, and give a name to the copy of its predicate. -/
  | copyStatement (root : Root) (predicate : Option String) (context name : String)
  /-- The number of nodes copied under a context. -/
  | context (context : String)
  /-- The number that the copy of a node has in outlines. -/
  | copied (name context : String)
  /-- The node of a name. -/
  | display (name : String)
  | statement (root : Root) (predicate : Option String)
  | outline (name : String)
  /-- Whether two names stand for one node. -/
  | same (left right : String)
  /-- How many nodes of either sort several names stand for. -/
  | distinct (names : List String)
  | parameters (name : String)
  | evaluate (name : String) (bindings : Bindings)
  /-- A predicate as SQL over a table that the statement calls by a name. -/
  | sql (name : String) (root : Root) (table : String)
  | attributeType (entityName attributeName : String)

/-- What a step tells. -/
inductive Answer where
  | node (node : Node)
  | statement (statement : Statement)
  | size (size : Nat)
  | number (number : Option Nat)
  | outline (outline : Outline)
  | same (equal : Bool)
  | distinct (expressions predicates : Nat)
  | parameters (parameters : List Parameter)
  | truth (truth : Truth)
  | sql (buffer : Sql.Buffer)
  | type (type : ScalarType)

/-- Why a step cannot be taken. -/
inductive StepError where
  | unbound
  | notAnExpression
  | notAPredicate
  | unknownOperator
  | differentSorts
  | construction (error : ConstructionError)
  | plan (error : PlanError)

end QueryModel
