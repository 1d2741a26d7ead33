import QueryModel.Proofs.Planning.Acceptance
import QueryModel.Proofs.Planning.Determined

/-! # Types of an analysed tree

Types flow through a tree from left to right: what a value is compared with is expected to be of its
type, and what is compared with nothing has a type of its own. Main statement: every tree that a
request is analysed into is well typed. Its paths are attributes of the root, its literals are
values of their types, and its parameters have the types that are expected of them.
-/

namespace QueryModel

/-- `scalar.IsTyped catalog root expected`: the type of the scalar is that of the attribute, is one
that the literal is a value of, or is the one that is expected of the parameter. -/
def Scalar.IsTyped (catalog : Catalog) (root : Root) (expected : ScalarType) (scalar : Scalar) :
    Prop :=
  match scalar.source with
  | .path found name =>
    found = root ∧ ∃ known, catalog.attribute? root.entity name = some known ∧
      scalar.type = known.type
  | .literal value => scalar.type.Holds value
  | .parameter _ => scalar.type = expected

/-- `predicate.IsTyped catalog root`: the values in the predicate are typed, those on the right of
others by the type of these, and the operators suit the types on their left. -/
def Predicate.IsTyped (catalog : Catalog) (root : Root) : Predicate → Prop
  | .comparison _ left operator right =>
    left.IsTyped catalog root .any ∧ operator ∈ left.type.operators ∧
      ∀ leaf ∈ right.leaves, leaf.IsTyped catalog root left.type
  | .junction _ left _ right => left.IsTyped catalog root ∧ right.IsTyped catalog root
  | .negation _ inner => inner.IsTyped catalog root
  | .nullness _ operand _ => operand.IsTyped catalog root .any
  | .between _ operand lower upper _ =>
    operand.IsTyped catalog root .any ∧ lower.IsTyped catalog root operand.type ∧
      upper.IsTyped catalog root operand.type

/-- A statement whose predicate, if it has one, is typed over its root. -/
def Statement.IsTyped (catalog : Catalog) (statement : Statement) : Prop :=
  ∀ predicate ∈ statement.predicate, predicate.IsTyped catalog statement.root

theorem Predicate.IsTyped.exists_of_mem_leaves {catalog : Catalog} {root : Root}
    {predicate : Predicate} (htyped : predicate.IsTyped catalog root) :
    ∀ leaf ∈ predicate.leaves, ∃ expected, leaf.IsTyped catalog root expected := by
  induction predicate with
  | comparison id left operator right =>
    obtain ⟨hleft, -, hright⟩ := htyped
    exact List.forall_mem_cons.mpr ⟨⟨_, hleft⟩, fun leaf hleaf => ⟨_, hright leaf hleaf⟩⟩
  | junction id left connective right ihleft ihright =>
    exact List.forall_mem_append.mpr ⟨ihleft htyped.1, ihright htyped.2⟩
  | negation id inner ih => exact ih htyped
  | nullness id operand negated => exact List.forall_mem_singleton.mpr ⟨_, htyped⟩
  | between id operand lower upper negated =>
    obtain ⟨hoperand, hlower, hupper⟩ := htyped
    simp only [leaves, List.forall_mem_cons]
    exact ⟨⟨_, hoperand⟩, ⟨_, hlower⟩, ⟨_, hupper⟩, List.forall_mem_nil _⟩

namespace Request

variable {catalog : Catalog} {root : Root} {expected : ScalarType}

theorem Operand.YieldsScalar.isTyped {operand : Operand} {node : Scalar}
    (hyields : operand.YieldsScalar catalog root expected node) :
    node.IsTyped catalog root expected := by
  cases hyields with
  | column id aliasName hknown => exact ⟨rfl, _, hknown, rfl⟩
  | literal id hliteral => exact Json.holds_of_literal hliteral
  | parameter id given => rfl

theorem Operand.YieldsScalar.forall_isTyped {operands : List Operand} {nodes : List Scalar}
    (hyields : List.Forall₂ (Operand.YieldsScalar catalog root expected) operands nodes) :
    ∀ node ∈ nodes, node.IsTyped catalog root expected := by
  induction hyields with
  | nil => exact List.forall_mem_nil _
  | cons hfirst hrest ih => exact List.forall_mem_cons.mpr ⟨hfirst.isTyped, ih⟩

theorem Operand.Yields.isTyped {operand : Operand} {made : Expression}
    (hyields : operand.Yields catalog root expected made) :
    ∀ leaf ∈ made.leaves, leaf.IsTyped catalog root expected := by
  cases hyields with
  | scalar hnode => exact List.forall_mem_singleton.mpr hnode.isTyped
  | list id hvalues =>
    exact Operand.YieldsScalar.forall_isTyped hvalues

/-- What a condition yields is typed. -/
theorem Condition.Yields.isTyped {part : Condition} {made : Predicate}
    (hyields : part.Yields catalog root made) : made.IsTyped catalog root := by
  induction hyields with
  | single connective hpart ih => exact ih
  | join id hparts hpart ihparts ihpart => exact ⟨ihparts, ihpart⟩
  | negation id hpart ih => exact ih
  | comparison id hleft hoperator hright hshape =>
    exact ⟨hleft.isTyped, hoperator, hright.isTyped⟩
  | nullness id negated hvalue => exact hvalue.isTyped
  | between id negated hvalue hlower hupper =>
    exact ⟨hvalue.isTyped, hlower.isTyped, hupper.isTyped⟩

theorem Yields.isTyped {request : Request} {statement : Statement}
    (hyields : request.Yields catalog statement) : statement.IsTyped catalog := by
  obtain ⟨entity, aliasName, part⟩ := request
  obtain ⟨root, predicate⟩ := statement
  obtain ⟨rfl, hpart⟩ := hyields
  rintro predicate ⟨⟩
  cases hpart with
  | some hpart => exact hpart.isTyped

end Request

/-- The tree that a request is analysed into, whatever was built before, is over the root of the
request and well typed. -/
theorem Request.isTyped_of_analyse {request : Request} {catalog : Catalog} {statement : Statement}
    {start later : NodeId} (hanalysed : request.analyse catalog start = .ok (statement, later)) :
    statement.root = ⟨request.entity, request.aliasName⟩ ∧ statement.IsTyped catalog := by
  have hyields : request.Yields catalog statement :=
    (request.succeedsIff_analyse catalog).made_of_eq_ok hanalysed
  exact ⟨hyields.root_eq, hyields.isTyped⟩

/-- Users by their number, of which one is given as a string, and by an age between bounds. -/
def typedRequest : Request where
  entity := "user"
  aliasName := "u"
  predicate := some (.and
    [.comparison (.column "id" none) .isIn
        (.list [.scalar (.string "7"), .scalar .null, .parameter (.named "id")]),
      .not (.between (.column "age" (some "u")) (.scalar (.number (.integer 18)))
        (.parameter (.positional 0)) false),
      .comparison (.parameter (.named "pattern")) .ilike (.scalar (.string "A%"))])

theorem isTyped_typedRequest :
    ∃ statement later, typedRequest.analyse usersConfiguration.catalog 0 = .ok (statement, later) ∧
      statement.root = ⟨"user", "u"⟩ ∧ statement.IsTyped usersConfiguration.catalog := by
  have hanalysed : typedRequest.analyse usersConfiguration.catalog 0 = .ok (_, _) := rfl
  obtain ⟨hroot, htyped⟩ := Request.isTyped_of_analyse hanalysed
  exact ⟨_, _, hanalysed, hroot, htyped⟩

end QueryModel
