import Mathlib.Data.List.Forall2
import QueryModel.Proofs.Planning.Literal
import QueryModel.Proofs.Query.Success

/-! # Well-formed requests

A request is well-formed if what it names is known, its lists stand where lists can stand, its
operators suit the types on their left, and its values can be read as literals of the types that
are expected of them. What a well-formed request describes is given beside it, node by node: the
tree may have any identities, and takes its types from the left to the right.
-/

namespace QueryModel

namespace Json

/-- The type of a JSON value that is compared with nothing. -/
def ownType : Json → ScalarType
  | .null => .any
  | .boolean _ => .boolean
  | .number given => if given.word?.isSome then .bigint else .doublePrecision
  | .string _ => .text
  | .array _ | .object _ => .any

theorem literalType_of_numberLiteral? {number : Number} {value : Value}
    (hvalue : numberLiteral? number .any = some value) :
    Building.literalType value = (Json.number number).ownType := by
  rw [ownType]
  cases hword : number.word? with
  | some n =>
    have hinteger : numberLiteral? number .any = some (.integer n) := by
      simp [numberLiteral?, ScalarType.wholeBits?, ScalarType.isFloating, hword]
    obtain rfl := Option.some.inj (hinteger.symm.trans hvalue)
    rfl
  | none =>
    have hfloat : numberLiteral? number .any = number.binary64?.map .float := by
      simp [numberLiteral?, ScalarType.wholeBits?, ScalarType.isFloating, hword]
    obtain ⟨x, -, rfl⟩ := Option.map_eq_some_iff.mp (hfloat.symm.trans hvalue)
    rfl

theorem literalType_of_literal_any {given : Json} {value : Value}
    (hvalue : given.literal .any = .ok value) : Building.literalType value = given.ownType := by
  cases given with
  | null => cases hvalue; rfl
  | boolean b => cases hvalue; rfl
  | number number =>
    dsimp only [literal] at hvalue
    split at hvalue
    · next found hfound =>
      cases hvalue
      exact literalType_of_numberLiteral? hfound
    · cases hvalue
  | string text => cases hvalue; rfl
  | array items => cases hvalue
  | object members => cases hvalue

end Json

namespace Request

namespace Operand

/-- Whether an operand is a list. -/
def isList : Operand → Bool
  | .list _ => true
  | .column _ _ | .scalar _ | .parameter _ => false

/-- The type of an operand where no type is expected. -/
def ownType (catalog : Catalog) (root : Root) : Operand → ScalarType
  | .column name _ => catalog.attributeType root.entity name
  | .scalar value => value.ownType
  | .parameter _ => .any
  | .list [] => .any
  | .list (first :: _) => first.ownType catalog root

/-- `operand.IsWellFormed catalog root expected`: the operand can stand where a value of the
expected type is asked for. -/
inductive IsWellFormed (catalog : Catalog) (root : Root) (expected : ScalarType) : Operand → Prop
  | column {name : String} {aliasName : Option String}
      (halias : ∀ given ∈ aliasName, given = root.aliasName)
      (hknown : (catalog.attribute? root.entity name).isSome) :
      IsWellFormed catalog root expected (.column name aliasName)
  | scalar {value : Json} (hvalue : ∃ literal, value.literal expected = .ok literal) :
      IsWellFormed catalog root expected (.scalar value)
  | parameter (given : Parameter) : IsWellFormed catalog root expected (.parameter given)
  | list {values : List Operand} (hne : values ≠ [])
      (hflat : ∀ value ∈ values, value.isList = false)
      (hvalues : ∀ value ∈ values, IsWellFormed catalog root expected value) :
      IsWellFormed catalog root expected (.list values)

/-- `operand.YieldsScalar catalog root expected made`: the single value is made of the operand. -/
inductive YieldsScalar (catalog : Catalog) (root : Root) (expected : ScalarType) :
    Operand → Scalar → Prop
  | column (id : NodeId) {name : String} (aliasName : Option String) {known : Attribute}
      (hknown : catalog.attribute? root.entity name = some known) :
      YieldsScalar catalog root expected (.column name aliasName)
        ⟨id, known.type, none, .path root name⟩
  | literal (id : NodeId) {value : Json} {literal : Value}
      (hliteral : value.literal expected = .ok literal) :
      YieldsScalar catalog root expected (.scalar value)
        ⟨id, Analysis.literalType expected literal, none, .literal literal⟩
  | parameter (id : NodeId) (given : Parameter) :
      YieldsScalar catalog root expected (.parameter given) ⟨id, expected, none, .parameter given⟩

/-- `operand.Yields catalog root expected made`: the expression is made of the operand. -/
inductive Yields (catalog : Catalog) (root : Root) (expected : ScalarType) :
    Operand → Expression → Prop
  | scalar {operand : Operand} {node : Scalar}
      (hnode : operand.YieldsScalar catalog root expected node) :
      Yields catalog root expected operand (.scalar node)
  | list (id : NodeId) {values : List Operand} {first : Scalar} {rest : List Scalar}
      (hvalues : List.Forall₂ (YieldsScalar catalog root expected) values (first :: rest)) :
      Yields catalog root expected (.list values) (.list ⟨id, first.type, none, first :: rest⟩)

variable {catalog : Catalog} {root : Root} {expected : ScalarType}

theorem isWellFormed_column {name : String} {aliasName : Option String} :
    (column name aliasName).IsWellFormed catalog root expected ↔
      (∀ given ∈ aliasName, given = root.aliasName) ∧
        (catalog.attribute? root.entity name).isSome := by
  constructor
  · rintro ⟨halias, hknown⟩
    exact ⟨halias, hknown⟩
  · rintro ⟨halias, hknown⟩
    exact .column halias hknown

theorem isWellFormed_scalar {value : Json} :
    (scalar value).IsWellFormed catalog root expected ↔
      ∃ literal, value.literal expected = .ok literal := by
  constructor
  · rintro (_ | hvalue)
    exact hvalue
  · exact .scalar

theorem isWellFormed_list {values : List Operand} :
    (list values).IsWellFormed catalog root expected ↔
      (∀ value ∈ values, value.IsWellFormed catalog root expected) ∧
        values ≠ [] ∧ ∀ value ∈ values, value.isList = false := by
  constructor
  · rintro (_ | _ | _ | ⟨hne, hflat, hvalues⟩)
    exact ⟨hvalues, hne, hflat⟩
  · rintro ⟨hvalues, hne, hflat⟩
    exact .list hne hflat hvalues

theorem YieldsScalar.isList_eq {operand : Operand} {node : Scalar}
    (hnode : operand.YieldsScalar catalog root expected node) : operand.isList = false := by
  cases hnode <;> rfl

theorem YieldsScalar.type_eq {operand : Operand} {node : Scalar}
    (hnode : operand.YieldsScalar catalog root .any node) :
    node.type = operand.ownType catalog root := by
  cases hnode with
  | column id aliasName hknown => rw [ownType, Catalog.attributeType, hknown]; rfl
  | literal id hliteral => exact Json.literalType_of_literal_any hliteral
  | parameter id given => rfl

namespace Yields

theorem yieldsScalar {operand : Operand} {node : Scalar}
    (hyields : operand.Yields catalog root expected (.scalar node)) :
    operand.YieldsScalar catalog root expected node := by
  cases hyields with
  | scalar hnode => exact hnode

theorem isList_eq {operand : Operand} {made : Expression}
    (hyields : operand.Yields catalog root expected made) : made.isList = operand.isList := by
  cases hyields with
  | scalar hnode => exact hnode.isList_eq.symm
  | list id hvalues => rfl

theorem isFlat_iff {operands : List Operand} {elements : List Expression}
    (hyields : List.Forall₂ (Operand.Yields catalog root expected) operands elements) :
    (elements ≠ [] ∧ ∀ element ∈ elements, element.isList = false) ↔
      operands ≠ [] ∧ ∀ operand ∈ operands, operand.isList = false := by
  have hsame : elements.map Expression.isList = operands.map Operand.isList := by
    induction hyields with
    | nil => rfl
    | cons hfirst _ ih => rw [List.map_cons, List.map_cons, hfirst.isList_eq, ih]
  have hflat {α : Type} (items : List α) (isList : α → Bool) :
      (items ≠ [] ∧ ∀ item ∈ items, isList item = false) ↔
        items.map isList ≠ [] ∧ ∀ found ∈ items.map isList, found = false := by
    simp
  rw [hflat elements, hflat operands, hsame]

/-- What is made of an operand where no type is expected has the type of its own. -/
theorem type_eq {operand : Operand} {made : Expression}
    (hyields : operand.Yields catalog root .any made) :
    made.type = operand.ownType catalog root := by
  cases hyields with
  | scalar hnode => exact hnode.type_eq
  | list id hvalues =>
    cases hvalues with
    | cons hfirst hrest => exact hfirst.type_eq

end Yields

end Operand

namespace Condition

/-- Conditions that are joined. -/
def junction : Connective → List Condition → Condition
  | .and, parts => .and parts
  | .or, parts => .or parts

/-- `part.IsWellFormed catalog root`: the condition can restrict a selection from the root. -/
inductive IsWellFormed (catalog : Catalog) (root : Root) : Condition → Prop
  | and {parts : List Condition} (hne : parts ≠ [])
      (hparts : ∀ part ∈ parts, IsWellFormed catalog root part) :
      IsWellFormed catalog root (.and parts)
  | or {parts : List Condition} (hne : parts ≠ [])
      (hparts : ∀ part ∈ parts, IsWellFormed catalog root part) :
      IsWellFormed catalog root (.or parts)
  | not {part : Condition} (hpart : IsWellFormed catalog root part) :
      IsWellFormed catalog root (.not part)
  | comparison {left right : Operand} {operator : Operator}
      (hleft : left.IsWellFormed catalog root .any) (hsingle : left.isList = false)
      (hoperator : operator ∈ (left.ownType catalog root).operators)
      (hright : right.IsWellFormed catalog root (left.ownType catalog root))
      (hshape : right.isList = operator.isMultiValued) :
      IsWellFormed catalog root (.comparison left operator right)
  | isNull {value : Operand} (negated : Bool) (hvalue : value.IsWellFormed catalog root .any)
      (hsingle : value.isList = false) : IsWellFormed catalog root (.isNull value negated)
  | between {value lower upper : Operand} (negated : Bool)
      (hvalue : value.IsWellFormed catalog root .any)
      (hlower : lower.IsWellFormed catalog root (value.ownType catalog root))
      (hupper : upper.IsWellFormed catalog root (value.ownType catalog root))
      (hsingle : value.isList = false ∧ lower.isList = false ∧ upper.isList = false) :
      IsWellFormed catalog root (.between value lower upper negated)

/-- `part.Yields catalog root made`: the predicate is made of the condition. -/
inductive Yields (catalog : Catalog) (root : Root) : Condition → Predicate → Prop
  | single (connective : Connective) {part : Condition} {made : Predicate}
      (hpart : Yields catalog root part made) :
      Yields catalog root (junction connective [part]) made
  | join (id : NodeId) {connective : Connective} {parts : List Condition} {part : Condition}
      {left right : Predicate} (hparts : Yields catalog root (junction connective parts) left)
      (hpart : Yields catalog root part right) :
      Yields catalog root (junction connective (parts ++ [part]))
        (.junction id left connective right)
  | negation (id : NodeId) {part : Condition} {inner : Predicate}
      (hpart : Yields catalog root part inner) :
      Yields catalog root (.not part) (.negation id inner)
  | comparison (id : NodeId) {left right : Operand} {operator : Operator} {node : Scalar}
      {expression : Expression} (hleft : left.YieldsScalar catalog root .any node)
      (hoperator : operator ∈ node.type.operators)
      (hright : right.Yields catalog root node.type expression)
      (hshape : expression.isList = operator.isMultiValued) :
      Yields catalog root (.comparison left operator right)
        (.comparison id node operator expression)
  | nullness (id : NodeId) {value : Operand} {node : Scalar} (negated : Bool)
      (hvalue : value.YieldsScalar catalog root .any node) :
      Yields catalog root (.isNull value negated) (.nullness id node negated)
  | between (id : NodeId) {value lower upper : Operand} {node low high : Scalar} (negated : Bool)
      (hvalue : value.YieldsScalar catalog root .any node)
      (hlower : lower.YieldsScalar catalog root node.type low)
      (hupper : upper.YieldsScalar catalog root node.type high) :
      Yields catalog root (.between value lower upper negated)
        (.between id node low high negated)

variable {catalog : Catalog} {root : Root}

theorem isWellFormed_and {parts : List Condition} :
    (and parts).IsWellFormed catalog root ↔
      (∀ part ∈ parts, part.IsWellFormed catalog root) ∧ parts ≠ [] := by
  constructor
  · rintro ⟨hne, hparts⟩
    exact ⟨hparts, hne⟩
  · rintro ⟨hparts, hne⟩
    exact .and hne hparts

theorem isWellFormed_or {parts : List Condition} :
    (or parts).IsWellFormed catalog root ↔
      (∀ part ∈ parts, part.IsWellFormed catalog root) ∧ parts ≠ [] := by
  constructor
  · rintro (_ | ⟨hne, hparts⟩)
    exact ⟨hparts, hne⟩
  · rintro ⟨hparts, hne⟩
    exact .or hne hparts

theorem isWellFormed_not {part : Condition} :
    (not part).IsWellFormed catalog root ↔ part.IsWellFormed catalog root := by
  constructor
  · rintro (_ | _ | hpart)
    exact hpart
  · exact .not

theorem isWellFormed_comparison {left right : Operand} {operator : Operator} :
    (comparison left operator right).IsWellFormed catalog root ↔
      left.IsWellFormed catalog root .any ∧ operator ∈ (left.ownType catalog root).operators ∧
        right.IsWellFormed catalog root (left.ownType catalog root) ∧
          left.isList = false ∧ right.isList = operator.isMultiValued := by
  constructor
  · rintro (_ | _ | _ | ⟨hleft, hsingle, hoperator, hright, hshape⟩)
    exact ⟨hleft, hoperator, hright, hsingle, hshape⟩
  · rintro ⟨hleft, hoperator, hright, hsingle, hshape⟩
    exact .comparison hleft hsingle hoperator hright hshape

theorem isWellFormed_isNull {value : Operand} {negated : Bool} :
    (isNull value negated).IsWellFormed catalog root ↔
      value.IsWellFormed catalog root .any ∧ value.isList = false := by
  constructor
  · rintro (_ | _ | _ | _ | ⟨negated, hvalue, hsingle⟩)
    exact ⟨hvalue, hsingle⟩
  · rintro ⟨hvalue, hsingle⟩
    exact .isNull negated hvalue hsingle

theorem isWellFormed_between {value lower upper : Operand} {negated : Bool} :
    (between value lower upper negated).IsWellFormed catalog root ↔
      value.IsWellFormed catalog root .any ∧
        lower.IsWellFormed catalog root (value.ownType catalog root) ∧
          upper.IsWellFormed catalog root (value.ownType catalog root) ∧
            value.isList = false ∧ lower.isList = false ∧ upper.isList = false := by
  constructor
  · rintro (_ | _ | _ | _ | _ | ⟨negated, hvalue, hlower, hupper, hsingle⟩)
    exact ⟨hvalue, hlower, hupper, hsingle⟩
  · rintro ⟨hvalue, hlower, hupper, hsingle⟩
    exact .between negated hvalue hlower hupper hsingle

namespace Yields

/-- Predicates that are made of conditions are joined into what the junction yields. -/
theorem of_isJoined {connective : Connective} {parts : List Condition}
    {predicates : List Predicate} {joined : Predicate}
    (hjoined : Building.IsJoined connective predicates joined)
    (hparts : List.Forall₂ (Yields catalog root) parts predicates) :
    Yields catalog root (junction connective parts) joined := by
  induction hjoined generalizing parts with
  | single predicate =>
    cases hparts with
    | cons hpart hnil =>
      cases hnil
      exact .single connective hpart
  | @join id predicates left hleft right ih =>
    -- The join is taken apart at its end, and so are the conditions.
    have hbefore := List.forall₂_take_append parts predicates [right] hparts
    have hlast := List.forall₂_drop_append parts predicates [right] hparts
    rw [← List.take_append_drop predicates.length parts]
    generalize parts.drop predicates.length = last at hlast
    cases hlast with
    | cons hpart hnil =>
      cases hnil
      exact .join id (ih hbefore) hpart

end Yields

end Condition

/-- A request that names a known entity, under a condition that is well-formed. -/
structure IsWellFormed (request : Request) (catalog : Catalog) : Prop where
  entity_isSome : (catalog.entities.get? request.entity).isSome
  predicate : ∀ part ∈ request.predicate,
    part.IsWellFormed catalog ⟨request.entity, request.aliasName⟩

theorem isWellFormed_iff {request : Request} {catalog : Catalog} :
    request.IsWellFormed catalog ↔ (catalog.entities.get? request.entity).isSome ∧
      ∀ part ∈ request.predicate,
        part.IsWellFormed catalog ⟨request.entity, request.aliasName⟩ :=
  ⟨fun hrequest => ⟨hrequest.entity_isSome, hrequest.predicate⟩, fun hparts => ⟨hparts.1, hparts.2⟩⟩

/-- `request.Yields catalog statement`: the statement is what the request describes. -/
structure Yields (request : Request) (catalog : Catalog) (statement : Statement) : Prop where
  root_eq : statement.root = ⟨request.entity, request.aliasName⟩
  predicate : Option.Rel (Condition.Yields catalog ⟨request.entity, request.aliasName⟩)
    request.predicate statement.predicate

end Request

end QueryModel
