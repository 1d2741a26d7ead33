import Mathlib.Data.List.Forall2
import QueryModel.Proofs.Query.Building

/-! # When building succeeds

Whether a node can be built depends on its operands only, never on the identities that were given
out before. A computation that builds nodes is described by the condition under which it succeeds,
together with what holds of its value then. What is put together from such computations succeeds
exactly if each of them does.
-/

namespace QueryModel

namespace Building

/-- From whatever identity it starts, a computation succeeds exactly if `condition` holds, and then
`made` holds of its value. -/
def SucceedsIff {ε α : Type} (build : Building ε α) (condition : Prop) (made : α → Prop) : Prop :=
  ∀ next, (condition → ∃ value later, build next = .ok (value, later)) ∧
    ∀ value later, build next = .ok (value, later) → condition ∧ made value

theorem bind_eq_ok {ε α β : Type} {first : Building ε α} {rest : α → Building ε β}
    {next last : NodeId} {result : β} :
    (first >>= rest) next = .ok (result, last) ↔
      ∃ value later, first next = .ok (value, later) ∧ rest value later = .ok (result, last) := by
  change (first next >>= fun made => rest made.1 made.2) = .ok (result, last) ↔ _
  cases first next with
  | error error =>
    constructor
    · rintro ⟨⟩
    · rintro ⟨value, later, hfirst, -⟩
      cases hfirst
  | ok made =>
    constructor
    · intro hrest
      exact ⟨made.1, made.2, rfl, hrest⟩
    · rintro ⟨value, later, ⟨⟩, hrest⟩
      exact hrest

namespace SucceedsIff

variable {ε α β : Type} {build : Building ε α} {condition other : Prop} {made weaker : α → Prop}

theorem succeeds_iff (hbuild : SucceedsIff build condition made) (next : NodeId) :
    (∃ value later, build next = .ok (value, later)) ↔ condition := by
  constructor
  · rintro ⟨value, later, hrun⟩
    exact ((hbuild next).2 value later hrun).1
  · exact (hbuild next).1

theorem made_of_eq_ok (hbuild : SucceedsIff build condition made) {next later : NodeId} {value : α}
    (hrun : build next = .ok (value, later)) : made value :=
  ((hbuild next).2 value later hrun).2

theorem pure {value : α} (hvalue : made value) :
    SucceedsIff (Pure.pure value : Building ε α) True made := by
  intro next
  refine ⟨fun _ => ⟨value, next, rfl⟩, ?_⟩
  rintro _ _ ⟨⟩
  exact ⟨trivial, hvalue⟩

theorem fail (error : ε) : SucceedsIff (Building.fail error) False made := by
  intro next
  refine ⟨False.elim, ?_⟩
  rintro _ _ ⟨⟩

theorem fail_bind (error : ε) (rest : α → Building ε β) {after : β → Prop} :
    SucceedsIff (Building.fail error >>= rest) False after := by
  intro next
  refine ⟨False.elim, ?_⟩
  rintro _ _ ⟨⟩

theorem bind {rest : α → Building ε β} {after : β → Prop}
    (hbuild : SucceedsIff build condition made)
    (hrest : ∀ value, made value → SucceedsIff (rest value) other after) :
    SucceedsIff (build >>= rest) (condition ∧ other) after := by
  intro next
  constructor
  · rintro ⟨hcondition, hother⟩
    obtain ⟨value, later, hfirst⟩ := (hbuild next).1 hcondition
    have hvalue := hbuild.made_of_eq_ok hfirst
    obtain ⟨result, last, hsecond⟩ := (hrest value hvalue later).1 hother
    exact ⟨result, last, bind_eq_ok.mpr ⟨value, later, hfirst, hsecond⟩⟩
  · intro result last hrun
    obtain ⟨value, later, hfirst, hsecond⟩ := bind_eq_ok.mp hrun
    obtain ⟨hcondition, hvalue⟩ := (hbuild next).2 value later hfirst
    obtain ⟨hother, hafter⟩ := (hrest value hvalue later).2 result last hsecond
    exact ⟨⟨hcondition, hother⟩, hafter⟩

theorem mono (hbuild : SucceedsIff build condition made)
    (hweaker : ∀ value, condition → made value → weaker value) :
    SucceedsIff build condition weaker := by
  intro next
  refine ⟨(hbuild next).1, fun value later hrun => ?_⟩
  obtain ⟨hcondition, hmade⟩ := (hbuild next).2 value later hrun
  exact ⟨hcondition, hweaker value hcondition hmade⟩

theorem congr (hbuild : SucceedsIff build condition made) (hiff : condition ↔ other) :
    SucceedsIff build other made := by
  rwa [← propext hiff]

/-- A value that is returned after a change is returned under the same condition. -/
theorem map {change : α → β} {after : β → Prop} (hbuild : SucceedsIff build condition made)
    (hafter : ∀ value, made value → after (change value)) :
    SucceedsIff (build >>= fun value => Pure.pure (change value)) condition after := by
  have hbind : SucceedsIff (build >>= fun value => Pure.pure (change value))
      (condition ∧ True) after := hbuild.bind fun value hvalue => .pure (hafter value hvalue)
  exact hbind.congr (iff_of_eq (and_true condition))

/-- A computation whose condition holds always succeeds. -/
theorem always (hbuild : SucceedsIff build condition made) (hcondition : condition) :
    SucceedsIff build True made := hbuild.congr (iff_true_intro hcondition)

/-- Two computations that always succeed do so one after the other. -/
theorem bind_always {rest : α → Building ε β} {after : β → Prop}
    (hbuild : SucceedsIff build True made)
    (hrest : ∀ value, made value → SucceedsIff (rest value) True after) :
    SucceedsIff (build >>= rest) True after := (hbuild.bind hrest).always ⟨trivial, trivial⟩

/-- Steps that always succeed do so one after the other. -/
theorem mapM_always {step : α → Building ε β} {made : α → β → Prop} {inputs : List α}
    (hstep : ∀ input ∈ inputs, SucceedsIff (step input) True (made input)) :
    SucceedsIff (inputs.mapM step) True (List.Forall₂ made inputs) := by
  induction inputs with
  | nil => exact .pure .nil
  | cons input rest ih =>
    obtain ⟨hinput, hrest⟩ := List.forall_mem_cons.mp hstep
    rw [List.mapM_cons]
    refine hinput.bind_always fun value hvalue => ?_
    exact (ih hrest).map fun values hvalues => .cons hvalue hvalues

theorem mapError {δ : Type} (hbuild : SucceedsIff build condition made) (change : ε → δ) :
    SucceedsIff (build.mapError change) condition made := by
  intro next
  constructor
  · intro hcondition
    obtain ⟨value, later, hrun⟩ := (hbuild next).1 hcondition
    refine ⟨value, later, ?_⟩
    rw [Building.mapError, hrun]
    rfl
  · intro value later hrun
    unfold Building.mapError at hrun
    cases hfirst : build next with
    | error error =>
      rw [hfirst] at hrun
      cases hrun
    | ok result =>
      rw [hfirst] at hrun
      cases hrun
      exact (hbuild next).2 value later hfirst

/-- What is built with a new identity is always built. -/
theorem fresh_node {node : NodeId → α} (hmade : ∀ id, made (node id)) :
    SucceedsIff (Building.fresh >>= fun id => Pure.pure (node id) : Building ε α) True made := by
  intro next
  refine ⟨fun _ => ⟨node next, next + 1, rfl⟩, ?_⟩
  rintro _ _ ⟨⟩
  exact ⟨trivial, hmade next⟩

/-- Where a computation makes only values on which two continuations agree, either may follow. -/
theorem bind_congr {rest others : α → Building ε β} (hbuild : SucceedsIff build condition made)
    (hsame : ∀ value, made value → rest value = others value) : build >>= rest = build >>= others := by
  funext next
  change (build next >>= fun result => rest result.1 result.2) =
    (build next >>= fun result => others result.1 result.2)
  cases hrun : build next with
  | error error => rfl
  | ok result =>
    have hvalue : made result.1 := hbuild.made_of_eq_ok hrun
    exact congrFun (hsame result.1 hvalue) result.2

end SucceedsIff

/-! ## Expressions -/

theorem succeedsIff_scalar {ε : Type} (type : ScalarType) (source : Source) :
    SucceedsIff (scalar type source : Building ε Scalar) True fun made =>
      ∃ id, made = ⟨id, type, none, source⟩ :=
  .fresh_node fun id => ⟨id, rfl⟩

/-- A literal is built of every value but an infinity and what is not a number. -/
theorem succeedsIff_typedLiteral (value : Value) (type : ScalarType) :
    SucceedsIff (typedLiteral value type) (∀ x, value = .float x → x.isFinite) fun made =>
      ∃ id, made = ⟨id, type, none, .literal value⟩ := by
  unfold typedLiteral
  split
  · next x =>
    split
    · next hfinite =>
      refine (succeedsIff_scalar _ _).congr (iff_of_true trivial ?_)
      rintro _ ⟨⟩
      exact hfinite
    · next hinfinite =>
      refine (SucceedsIff.fail _).congr (iff_of_false not_false ?_)
      intro hfinite
      exact hinfinite (hfinite x rfl)
  · next hother =>
    refine (succeedsIff_scalar _ _).congr (iff_of_true trivial ?_)
    intro x hx
    exact (hother x hx).elim

theorem exists_eq_scalar {expression : Expression} (hsingle : expression.isList = false) :
    ∃ node, expression = .scalar node := by
  cases expression with
  | scalar node => exact ⟨node, rfl⟩
  | list values => cases hsingle

theorem mapM_scalar?_map_scalar (scalars : List Scalar) :
    (scalars.map Expression.scalar).mapM Expression.scalar? = some scalars := by
  induction scalars with
  | nil => rfl
  | cons node rest ih =>
    rw [List.map_cons, List.mapM_cons, ih]
    rfl

/-- Expressions are scalars one by one exactly if they are a list of scalars. -/
theorem exists_eq_map_scalar_iff {elements : List Expression} :
    (∃ scalars : List Scalar, elements = scalars.map .scalar) ↔
      ∀ element ∈ elements, element.isList = false := by
  constructor
  · rintro ⟨scalars, rfl⟩ element helement
    obtain ⟨node, -, rfl⟩ := List.mem_map.mp helement
    rfl
  · intro hsingle
    induction elements with
    | nil => exact ⟨[], rfl⟩
    | cons element rest ih =>
      rw [List.forall_mem_cons] at hsingle
      obtain ⟨scalars, rfl⟩ := ih hsingle.2
      obtain ⟨node, rfl⟩ := exists_eq_scalar hsingle.1
      exact ⟨node :: scalars, rfl⟩

/-- A list is built of several scalars, or of one. -/
theorem succeedsIff_list (elements : List Expression) :
    SucceedsIff (list elements)
      (elements ≠ [] ∧ ∀ element ∈ elements, element.isList = false) fun made =>
      ∃ id first rest, elements = (first :: rest).map .scalar ∧
        made = ⟨id, first.type, none, first :: rest⟩ := by
  unfold list
  split
  · exact (SucceedsIff.fail _).congr (iff_of_false not_false fun hshape => hshape.1 rfl)
  · next first rest =>
    rw [← exists_eq_map_scalar_iff]
    cases hscalars : (first :: rest).mapM Expression.scalar? with
    | none =>
      refine (SucceedsIff.fail _).congr (iff_of_false not_false ?_)
      rintro ⟨-, scalars, hmap⟩
      rw [hmap, mapM_scalar?_map_scalar] at hscalars
      cases hscalars
    | some scalars =>
      have hmap := mem_of_mapM_scalar? hscalars
      refine (SucceedsIff.fresh_node fun id => ?_).congr
        (iff_of_true trivial ⟨List.cons_ne_nil _ _, scalars, hmap⟩)
      cases scalars with
      | nil => cases hmap
      | cons node others =>
        obtain ⟨rfl, -⟩ := List.cons.inj hmap
        exact ⟨id, node, others, hmap, rfl⟩

/-! ## Predicates -/

/-- A comparison is built of a scalar and an operand of the shape that its operator asks for. -/
theorem succeedsIff_comparison (left : Expression) (operator : Operator) (right : Expression) :
    SucceedsIff (comparison left operator right)
      (left.isList = false ∧ right.isList = operator.isMultiValued) fun made =>
      ∃ id node, left = .scalar node ∧ made = .comparison id node operator right := by
  unfold comparison
  cases left with
  | list values =>
    exact (SucceedsIff.fail _).congr (iff_of_false not_false fun hshape => nomatch hshape.1)
  | scalar node =>
    have hbuilt : SucceedsIff
        (fresh >>= fun id => Pure.pure (.comparison id node operator right) :
          Building ConstructionError Predicate) True fun made =>
        ∃ id scalar, Expression.scalar node = .scalar scalar ∧
          made = .comparison id scalar operator right :=
      .fresh_node fun id => ⟨id, node, rfl, rfl⟩
    cases hmany : operator.isMultiValued <;> cases hlist : right.isList
    · exact hbuilt.congr (iff_of_true trivial ⟨rfl, rfl⟩)
    · exact (SucceedsIff.fail _).congr (iff_of_false not_false fun hshape => nomatch hshape.2)
    · exact (SucceedsIff.fail _).congr (iff_of_false not_false fun hshape => nomatch hshape.2)
    · exact hbuilt.congr (iff_of_true trivial ⟨rfl, rfl⟩)

/-- `IsJoined connective predicates joined`: the predicates are joined from the left, in order. -/
inductive IsJoined (connective : Connective) : List Predicate → Predicate → Prop
  | single (predicate : Predicate) : IsJoined connective [predicate] predicate
  | join (id : NodeId) {predicates : List Predicate} {left : Predicate}
      (hleft : IsJoined connective predicates left) (right : Predicate) :
      IsJoined connective (predicates ++ [right]) (.junction id left connective right)

theorem succeedsIff_junctionAll (connective : Connective) (predicates : List Predicate) :
    SucceedsIff (junctionAll connective predicates) (predicates ≠ [])
      (IsJoined connective predicates) := by
  have hfold (rest done : List Predicate) (joined : Predicate)
      (hjoined : IsJoined connective done joined) :
      SucceedsIff (rest.foldlM (fun left right => junction left connective right) joined :
        Building ConstructionError Predicate) True (IsJoined connective (done ++ rest)) := by
    induction rest generalizing done joined with
    | nil =>
      rw [List.append_nil]
      exact .pure hjoined
    | cons right rest ih =>
      have hstep : SucceedsIff
          (junction joined connective right : Building ConstructionError Predicate) True
          (IsJoined connective (done ++ [right])) := .fresh_node fun id => .join id hjoined right
      rw [List.foldlM_cons, List.append_cons]
      exact (hstep.bind fun longer hlonger => ih (done ++ [right]) longer hlonger).congr
        (and_self_iff)
  unfold junctionAll
  split
  · exact (SucceedsIff.fail _).congr (iff_of_false not_false fun hne => hne rfl)
  · next first rest =>
    exact (hfold rest [first] first (.single first)).congr
      (iff_of_true trivial (List.cons_ne_nil first rest))

theorem succeedsIff_negation {ε : Type} (inner : Predicate) :
    SucceedsIff (negation inner : Building ε Predicate) True fun made =>
      ∃ id, made = .negation id inner :=
  .fresh_node fun id => ⟨id, rfl⟩

theorem succeedsIff_nullness (operand : Expression) (negated : Bool) :
    SucceedsIff (nullness operand negated) (operand.isList = false) fun made =>
      ∃ id node, operand = .scalar node ∧ made = .nullness id node negated := by
  unfold nullness
  cases operand with
  | list values => exact (SucceedsIff.fail _).congr (iff_of_false not_false nofun)
  | scalar node =>
    exact (SucceedsIff.fresh_node fun id => ⟨id, node, rfl, rfl⟩).congr (iff_of_true trivial rfl)

theorem succeedsIff_between (operand lower upper : Expression) (negated : Bool) :
    SucceedsIff (between operand lower upper negated)
      (operand.isList = false ∧ lower.isList = false ∧ upper.isList = false) fun made =>
      ∃ id node low high, operand = .scalar node ∧ lower = .scalar low ∧ upper = .scalar high ∧
        made = .between id node low high negated := by
  unfold between
  split
  · next node low high =>
    exact (SucceedsIff.fresh_node fun id => ⟨id, node, low, high, rfl, rfl, rfl, rfl⟩).congr
      (iff_of_true trivial ⟨rfl, rfl, rfl⟩)
  · next hother =>
    refine (SucceedsIff.fail _).congr (iff_of_false not_false ?_)
    rintro ⟨hoperand, hlower, hupper⟩
    obtain ⟨node, rfl⟩ := exists_eq_scalar hoperand
    obtain ⟨low, rfl⟩ := exists_eq_scalar hlower
    obtain ⟨high, rfl⟩ := exists_eq_scalar hupper
    exact hother node low high rfl rfl rfl

end Building

end QueryModel
