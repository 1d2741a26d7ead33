import QueryModel.Planning.Plan
import QueryModel.Session.Basic

/-! # Running sessions

Steps are taken one after the other. The names in a step are looked up in the order in which they
are listed there, before anything else is done, and a step that fails leaves the session as it was.
-/

namespace QueryModel

/-- A step that is being taken. -/
abbrev Stepping := StateT Session (Except StepError)

namespace Stepping

/-- Fail. -/
def fail {α : Type} (error : StepError) : Stepping α := fun _ => .error error

/-- The node of a name. -/
def node (name : String) : Stepping Node := do
  match (← get).nodes.get? name with
  | some node => return node
  | none => fail .unbound

/-- The expression of a name. -/
def expression (name : String) : Stepping Expression := do
  match ← node name with
  | .expression expression => return expression
  | .predicate _ => fail .notAnExpression

/-- The predicate of a name. -/
def predicate (name : String) : Stepping Predicate := do
  match ← node name with
  | .expression _ => fail .notAPredicate
  | .predicate predicate => return predicate

/-- The predicate of a name, if there is a name. -/
def optionalPredicate : Option String → Stepping (Option Predicate)
  | none => return none
  | some name => return some (← predicate name)

/-- Build a node. -/
def build {α : Type} (building : Building ConstructionError α) : Stepping α := fun session =>
  match building session.next with
  | .error error => .error (.construction error)
  | .ok (value, next) => .ok (value, { session with next := next })

/-- The context of a name; nothing has been copied under one that is new. -/
def context (name : String) : Stepping CopyContext := do
  return ((← get).contexts.get? name).getD .empty

/-- Make copies under the context of a name. -/
def copying {α : Type} (name : String) (copying : Copying α) : Stepping α := do
  let context ← context name
  let session ← get
  let (copy, state) := copying ⟨session.next, context⟩
  set { session with
    next := state.next
    contexts := session.contexts.insert name state.context }
  return copy

/-- Give a name to a node. -/
def bind (name : String) (node : Node) : Stepping Unit :=
  modify fun session => { session with nodes := session.nodes.insert name node }

end Stepping

open Stepping

/-- Build an expression. -/
def Making.scalar (building : Building ConstructionError Scalar) : Stepping Node := do
  return .expression (.scalar (← build building))

/-- Build a predicate. -/
def Making.buildPredicate (building : Building ConstructionError Predicate) : Stepping Node := do
  return .predicate (← build building)

/-- Make a node. -/
def Making.run : Making → Stepping Node
  | .literal value none => scalar (Building.literal value)
  | .literal value (some type) => scalar (Building.typedLiteral value type)
  | .parameter given type => scalar (Building.parameter given type)
  | .path root attributeName => do
    let catalog := (← get).configuration.catalog
    scalar (Building.path catalog root attributeName)
  | .list names => do
    let elements ← names.mapM expression
    return .expression (.list (← build (Building.list elements)))
  | .aliased name aliasName => do
    let unnamed ← expression name
    return .expression (← build (Building.aliased unnamed aliasName))
  | .comparison left right operator => do
    let left ← expression left
    let right ← expression right
    match operator with
    | none => fail .unknownOperator
    | some operator => buildPredicate (Building.comparison left operator right)
  | .junction left connective right => do
    let left ← predicate left
    let right ← predicate right
    buildPredicate (Building.junction left connective right)
  | .junctionAll connective names => do
    let predicates ← names.mapM predicate
    buildPredicate (Building.junctionAll connective predicates)
  | .negation name => do
    let inner ← predicate name
    buildPredicate (Building.negation inner)
  | .nullness name negated => do
    let operand ← expression name
    buildPredicate (Building.nullness operand negated)
  | .between operand lower upper negated => do
    let operand ← expression operand
    let lower ← expression lower
    let upper ← expression upper
    buildPredicate (Building.between operand lower upper negated)
  | .pushDown name => do
    let root ← predicate name
    buildPredicate (Building.pushDown root)
  | .copyTree name => do
    let root ← predicate name
    buildPredicate (Building.ofCopying root.copy)
  | .copy name contextName => do
    match ← node name with
    | .expression root => return .expression (← copying contextName root.copy)
    | .predicate root => return .predicate (← copying contextName root.copy)

/-- The number of different identities. -/
def distinctCount (ids : List NodeId) : Nat := (Std.HashSet.ofList ids).size

/-- The copy of a node under a context, if there is one. -/
def CopyContext.node? (context : CopyContext) : Node → Option Node
  | .expression tree => (context.expression? tree).map .expression
  | .predicate tree => (context.predicate? tree).map .predicate

namespace Step

/-- Whether two nodes of one sort are the same. -/
def sameNode (left right : Node) : Stepping Answer :=
  match left, right with
  | .expression left, .expression right => return .same (left.id == right.id)
  | .predicate left, .predicate right => return .same (left.id == right.id)
  | _, _ => fail .differentSorts

/-- A predicate as SQL. -/
def runSql (name : String) (root : Root) (table : String) : Stepping Answer := do
  let restriction ← predicate name
  let configuration := (← get).configuration
  let tableContext : TableContext :=
    ⟨configuration.catalog, configuration.dialect, root, table⟩
  match tableContext.predicate restriction with
  | .error error => fail (.plan error)
  | .ok expression => return .sql (.ofPieces expression.pieces)

/-- Take a step. -/
def run : Step → Stepping Answer
  | .make making name => do
    let made ← making.run
    bind name made
    return .node made
  | .copyStatement root restriction contextName name => do
    let restriction ← optionalPredicate restriction
    let copy ← copying contextName (Statement.copy ⟨root, restriction⟩)
    match copy.predicate with
    | none => pure ()
    | some duplicate => bind name (.predicate duplicate)
    return .statement copy
  | .context name => return .size (← Stepping.context name).size
  | .copied name contextName => do
    let copied ← node name
    match (← Stepping.context contextName).node? copied with
    | none => return .number none
    | some copy =>
      modify fun session => { session with numbering := session.numbering.withNode copy }
      return .number (some ((← get).numbering.number copy))
  | .display name => return .node (← node name)
  | .statement root restriction => do
    let restriction ← optionalPredicate restriction
    return .statement ⟨root, restriction⟩
  | .outline name => do
    let root ← node name
    let session ← get
    let (lines, numbering) := root.outline session.numbering
    set { session with numbering := numbering }
    return .outline lines
  | .same left right => do
    let left ← node left
    let right ← node right
    sameNode left right
  | .distinct names => do
    let nodes ← names.mapM node
    let expressions := nodes.filterMap fun
      | .expression expression => some expression.id
      | .predicate _ => none
    let predicates := nodes.filterMap fun
      | .expression _ => none
      | .predicate predicate => some predicate.id
    return .distinct (distinctCount expressions) (distinctCount predicates)
  | .parameters name => return .parameters (← predicate name).parameters
  | .evaluate name bindings => return .truth ((← predicate name).evaluate bindings)
  | .sql name root table => runSql name root table
  | .attributeType entityName attributeName => do
    return .type ((← get).configuration.catalog.attributeType entityName attributeName)

end Step

/-- Take a step in a session, and return what it tells and the session after it. A step that fails
leaves the session as it was. -/
def Session.take (session : Session) (step : Step) : Except StepError Answer × Session :=
  match step.run session with
  | .ok (answer, session) => (.ok answer, session)
  | .error error => (.error error, session)

end QueryModel
