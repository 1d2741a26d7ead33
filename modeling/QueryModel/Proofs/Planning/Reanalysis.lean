import QueryModel.Proofs.Planning.Determined

/-! # Analysing a request again

A request is analysed into one tree, up to the identities of its nodes, however many nodes were
built before; where it cannot be analysed, it is refused with one error. Main statement: two runs of
the analysis of a request agree.
-/

namespace QueryModel

namespace Building

/-- From whatever identities they start, two computations fail with one error, or both succeed and
their values are related. -/
def Agrees {ε α β : Type} (related : α → β → Prop) (first : Building ε α)
    (second : Building ε β) : Prop :=
  ∀ next other, (∃ error, first next = .error error ∧ second other = .error error) ∨
    ∃ value result later last, first next = .ok (value, later) ∧
      second other = .ok (result, last) ∧ related value result

/-- Two computations agree up to what is taken away from their values. -/
abbrev AgreesUpTo {ε α : Type} (anonymous : α → α) (first second : Building ε α) : Prop :=
  Agrees (fun made other => anonymous made = anonymous other) first second

theorem bind_of_eq_error {ε α β : Type} {first : Building ε α} {rest : α → Building ε β}
    {next : NodeId} {error : ε} (hfirst : first next = .error error) :
    (first >>= rest) next = .error error := by
  change (first next >>= fun result => rest result.1 result.2) = .error error
  rw [hfirst]
  rfl

namespace Agrees

variable {ε α β γ δ : Type} {related : α → β → Prop} {after : γ → δ → Prop}

theorem pure {value : α} {result : β} (hrelated : related value result) :
    Agrees related (Pure.pure value : Building ε α) (Pure.pure result) :=
  fun next other => Or.inr ⟨value, result, next, other, rfl, rfl, hrelated⟩

theorem bind {first : Building ε α} {second : Building ε β} {rest : α → Building ε γ}
    {others : β → Building ε δ} (hfirst : Agrees related first second)
    (hrest : ∀ value result, related value result → Agrees after (rest value) (others result)) :
    Agrees after (first >>= rest) (second >>= others) := by
  intro next other
  obtain ⟨error, hleft, hright⟩ | ⟨value, result, later, last, hleft, hright, hrelated⟩ :=
    hfirst next other
  · exact Or.inl ⟨error, bind_of_eq_error hleft, bind_of_eq_error hright⟩
  · rw [bind_of_eq_ok hleft, bind_of_eq_ok hright]
    exact hrest value result hrelated later last

theorem fail (error : ε) : Agrees related (Building.fail error) (Building.fail error) :=
  fun _ _ => Or.inl ⟨error, rfl, rfl⟩

theorem check (result : Except ε α) :
    Agrees Eq (Building.check result) (Building.check result) := by
  intro next other
  cases result with
  | error error => exact Or.inl ⟨error, rfl, rfl⟩
  | ok value => exact Or.inr ⟨value, value, next, other, rfl, rfl, rfl⟩

theorem forPlan {first : Building ConstructionError α} {second : Building ConstructionError β}
    (hagrees : Agrees related first second) : Agrees related first.forPlan second.forPlan := by
  intro next other
  obtain ⟨error, hleft, hright⟩ | ⟨value, result, later, last, hleft, hright, hrelated⟩ :=
    hagrees next other
  · refine Or.inl ⟨.construction error, ?_, ?_⟩
    · rw [Building.forPlan, mapError, hleft]
      rfl
    · rw [Building.forPlan, mapError, hright]
      rfl
  · refine Or.inr ⟨value, result, later, last, ?_, ?_, hrelated⟩
    · rw [Building.forPlan, mapError, hleft]
      rfl
    · rw [Building.forPlan, mapError, hright]
      rfl

/-- A new node is the same but for its identity. -/
theorem fresh_node {node : NodeId → α} {other : NodeId → β}
    (hrelated : ∀ id otherId, related (node id) (other otherId)) :
    Agrees related (do let id ← (fresh : Building ε NodeId); return node id)
      (do let id ← (fresh : Building ε NodeId); return other id) :=
  fun _ _ => Or.inr ⟨_, _, _, _, rfl, rfl, hrelated _ _⟩

end Agrees

/-! ## Building nodes -/

section nodes

variable {ε : Type}

theorem agrees_scalar (type : ScalarType) (source : Source) :
    AgreesUpTo Scalar.anonymous (scalar type source : Building ε Scalar) (scalar type source) :=
  .fresh_node fun _ _ => rfl

theorem agrees_typedLiteral (value : Value) (type : ScalarType) :
    AgreesUpTo Scalar.anonymous (typedLiteral value type) (typedLiteral value type) := by
  unfold typedLiteral
  split
  · split
    · exact agrees_scalar _ _
    · exact .fail _
  · exact agrees_scalar _ _

theorem scalar?_anonymous (expression : Expression) :
    expression.anonymous.scalar? = expression.scalar?.map Scalar.anonymous := by
  cases expression <;> rfl

theorem type_anonymous (expression : Expression) : expression.anonymous.type = expression.type := by
  cases expression <;> rfl

/-- Expressions that differ in identities only are of one sort. -/
theorem sorts_of_anonymous_eq {left right : Expression}
    (hsame : left.anonymous = right.anonymous) :
    (∃ node other, left = .scalar node ∧ right = .scalar other ∧
        node.anonymous = other.anonymous) ∨
      ∃ values other, left = .list values ∧ right = .list other := by
  cases left with
  | scalar node =>
    cases right with
    | scalar other =>
      injection hsame with hsame
      exact Or.inl ⟨node, other, rfl, rfl, hsame⟩
    | list other => cases hsame
  | list values =>
    cases right with
    | scalar other => cases hsame
    | list other => exact Or.inr ⟨values, other, rfl, rfl⟩

theorem agrees_list {elements others : List Expression}
    (hsame : elements.map Expression.anonymous = others.map Expression.anonymous) :
    AgreesUpTo ValueList.anonymous (list elements) (list others) := by
  have hscalars := congrArg (List.mapM Expression.scalar?) hsame
  rw [mapM_scalar?_map scalar?_anonymous, mapM_scalar?_map scalar?_anonymous] at hscalars
  cases elements with
  | nil =>
    obtain rfl := List.map_eq_nil_iff.mp hsame.symm
    exact .fail _
  | cons first rest =>
    obtain ⟨other, others, rfl, hfirst, -⟩ := List.map_eq_cons_iff.mp hsame.symm
    have htype : first.type = other.type := by rw [← type_anonymous, ← hfirst, type_anonymous]
    unfold list
    dsimp only
    rw [htype]
    cases hleft : (first :: rest).mapM Expression.scalar? with
    | none =>
      rw [hleft, Option.map_none] at hscalars
      rw [Option.map_eq_none_iff.mp hscalars.symm]
      exact .fail _
    | some scalars =>
      rw [hleft, Option.map_some] at hscalars
      obtain ⟨scalars', hright, hsame⟩ := Option.map_eq_some_iff.mp hscalars.symm
      rw [hright]
      refine .fresh_node fun _ _ => ?_
      simp only [ValueList.anonymous, hsame]

theorem agrees_comparison {left left' right right' : Expression} (operator : Operator)
    (hleft : left.anonymous = left'.anonymous) (hright : right.anonymous = right'.anonymous) :
    AgreesUpTo Predicate.anonymous (comparison left operator right)
      (comparison left' operator right') := by
  have hlist : right.isList = right'.isList := by
    rw [← Expression.isList_anonymous, hright, Expression.isList_anonymous]
  obtain ⟨node, other, rfl, rfl, hnode⟩ | ⟨values, other, rfl, rfl⟩ := sorts_of_anonymous_eq hleft
  · unfold comparison
    dsimp only
    rw [hlist]
    split
    · exact .fail _
    · split
      · exact .fail _
      · refine .fresh_node fun _ _ => ?_
        simp only [Predicate.anonymous, hnode, hright]
  · exact .fail _

theorem agrees_junction {left left' right right' : Predicate} (connective : Connective)
    (hleft : left.anonymous = left'.anonymous) (hright : right.anonymous = right'.anonymous) :
    AgreesUpTo Predicate.anonymous (junction left connective right : Building ε Predicate)
      (junction left' connective right') := by
  refine .fresh_node fun _ _ => ?_
  simp only [Predicate.anonymous, hleft, hright]

theorem agrees_junctionAll {predicates others : List Predicate} (connective : Connective)
    (hsame : predicates.map Predicate.anonymous = others.map Predicate.anonymous) :
    AgreesUpTo Predicate.anonymous (junctionAll connective predicates)
      (junctionAll connective others) := by
  cases predicates with
  | nil =>
    obtain rfl := List.map_eq_nil_iff.mp hsame.symm
    exact .fail _
  | cons first rest =>
    obtain ⟨other, others, rfl, hfirst, hrest⟩ := List.map_eq_cons_iff.mp hsame.symm
    unfold junctionAll
    dsimp only
    clear hsame
    induction rest generalizing first other others with
    | nil =>
      obtain rfl := List.map_eq_nil_iff.mp hrest
      exact .pure hfirst.symm
    | cons second rest ih =>
      obtain ⟨second', others, rfl, hsecond, hrest⟩ := List.map_eq_cons_iff.mp hrest
      rw [List.foldlM_cons, List.foldlM_cons]
      exact (agrees_junction connective hfirst.symm hsecond.symm).bind fun joined joined' hjoined =>
        ih joined joined' others hjoined.symm hrest

theorem agrees_negation {inner inner' : Predicate} (hinner : inner.anonymous = inner'.anonymous) :
    AgreesUpTo Predicate.anonymous (negation inner : Building ε Predicate) (negation inner') := by
  refine .fresh_node fun _ _ => ?_
  simp only [Predicate.anonymous, hinner]

theorem agrees_nullness {operand operand' : Expression} (negated : Bool)
    (hoperand : operand.anonymous = operand'.anonymous) :
    AgreesUpTo Predicate.anonymous (nullness operand negated) (nullness operand' negated) := by
  obtain ⟨node, other, rfl, rfl, hnode⟩ | ⟨values, other, rfl, rfl⟩ :=
    sorts_of_anonymous_eq hoperand
  · refine .fresh_node fun _ _ => ?_
    simp only [Predicate.anonymous, hnode]
  · exact .fail _

theorem agrees_between {operand operand' lower lower' upper upper' : Expression} (negated : Bool)
    (hoperand : operand.anonymous = operand'.anonymous)
    (hlower : lower.anonymous = lower'.anonymous) (hupper : upper.anonymous = upper'.anonymous) :
    AgreesUpTo Predicate.anonymous (between operand lower upper negated)
      (between operand' lower' upper' negated) := by
  obtain ⟨node, other, rfl, rfl, hnode⟩ | ⟨values, other, rfl, rfl⟩ :=
    sorts_of_anonymous_eq hoperand
  · obtain ⟨low, low', rfl, rfl, hlow⟩ | ⟨values, other, rfl, rfl⟩ :=
      sorts_of_anonymous_eq hlower
    · obtain ⟨up, up', rfl, rfl, hup⟩ | ⟨values, other, rfl, rfl⟩ :=
        sorts_of_anonymous_eq hupper
      · refine .fresh_node fun _ _ => ?_
        simp only [Predicate.anonymous, hnode, hlow, hup]
      · exact .fail _
    · exact .fail _
  · exact .fail _

end nodes

end Building

/-! ## Analysis -/

namespace Analysis

open Building

variable {catalog : Catalog} {root : Root}

theorem agrees_literal (value : Json) (expected : Option ScalarType) :
    AgreesUpTo Scalar.anonymous (literal value expected) (literal value expected) := by
  unfold literal
  split
  · exact (Agrees.check _).bind fun _ _ hsame => hsame ▸ .forPlan (agrees_typedLiteral _ _)
  · exact (Agrees.check _).bind fun _ _ hsame => hsame ▸ .forPlan (agrees_typedLiteral _ _)
  · exact (Agrees.check _).bind fun _ _ hsame => hsame ▸ .forPlan (agrees_typedLiteral _ _)

theorem agrees_column (name : String) (aliasName : Option String) :
    AgreesUpTo Scalar.anonymous (column catalog root name aliasName)
      (column catalog root name aliasName) := by
  have hknown : AgreesUpTo Scalar.anonymous
      (do
        let _ ← check (catalog.attributeOf root.entity name)
        path catalog root name : Building PlanError Scalar)
      (do
        let _ ← check (catalog.attributeOf root.entity name)
        path catalog root name : Building PlanError Scalar) :=
    (Agrees.check _).bind fun _ _ _ => agrees_scalar _ _
  unfold column
  split
  · exact hknown
  · split
    · exact hknown
    · have hfails {error : PlanError} :
          Agrees (fun _ _ : Unit => False) (fail error) (fail error) :=
        .fail error
      exact hfails.bind fun _ _ hfalse => hfalse.elim

mutual

theorem agrees_operand (expected : Option ScalarType) (value : Request.Operand) :
    AgreesUpTo Expression.anonymous (operand catalog root expected value)
      (operand catalog root expected value) := by
  cases value with
  | column name aliasName =>
    rw [operand]
    exact (agrees_column name aliasName).bind fun _ _ hsame =>
      .pure (congrArg Expression.scalar hsame)
  | scalar value =>
    rw [operand]
    exact (agrees_literal value expected).bind fun _ _ hsame =>
      .pure (congrArg Expression.scalar hsame)
  | parameter given =>
    rw [operand]
    exact (agrees_scalar _ _).bind fun _ _ hsame => .pure (congrArg Expression.scalar hsame)
  | list values =>
    rw [operand]
    refine (agrees_operands expected values).bind fun _ _ hsame => ?_
    exact (agrees_list hsame).forPlan.bind fun _ _ hsame => .pure (congrArg Expression.list hsame)
termination_by structural value

theorem agrees_operands (expected : Option ScalarType) (values : List Request.Operand) :
    AgreesUpTo (List.map Expression.anonymous) (operands catalog root expected values)
      (operands catalog root expected values) := by
  cases values with
  | nil => exact .pure rfl
  | cons value rest =>
    rw [operands]
    refine (agrees_operand expected value).bind fun _ _ hfirst => ?_
    refine (agrees_operands expected rest).bind fun _ _ hrest => .pure ?_
    rw [List.map_cons, List.map_cons, hfirst, hrest]
termination_by structural values

end

mutual

theorem agrees_condition (part : Request.Condition) :
    AgreesUpTo Predicate.anonymous (condition catalog root part) (condition catalog root part) := by
  cases part with
  | and parts =>
    rw [condition]
    exact (agrees_conditions parts).bind fun _ _ hsame => (agrees_junctionAll .and hsame).forPlan
  | or parts =>
    rw [condition]
    exact (agrees_conditions parts).bind fun _ _ hsame => (agrees_junctionAll .or hsame).forPlan
  | not part =>
    rw [condition]
    exact (agrees_condition part).bind fun _ _ hsame => agrees_negation hsame
  | comparison left operator right =>
    rw [condition]
    refine (agrees_operand none left).bind fun left left' hleft => ?_
    have htype : left.type = left'.type := by rw [← type_anonymous, hleft, type_anonymous]
    rw [htype]
    refine (Agrees.check _).bind fun _ _ _ => ?_
    exact (agrees_operand _ right).bind fun _ _ hright =>
      (agrees_comparison operator hleft hright).forPlan
  | isNull value negated =>
    rw [condition]
    exact (agrees_operand none value).bind fun _ _ hsame => (agrees_nullness negated hsame).forPlan
  | between value lower upper negated =>
    rw [condition]
    refine (agrees_operand none value).bind fun value value' hvalue => ?_
    have htype : value.type = value'.type := by rw [← type_anonymous, hvalue, type_anonymous]
    rw [htype]
    refine (agrees_operand _ lower).bind fun _ _ hlower => ?_
    exact (agrees_operand _ upper).bind fun _ _ hupper =>
      (agrees_between negated hvalue hlower hupper).forPlan
termination_by structural part

theorem agrees_conditions (parts : List Request.Condition) :
    AgreesUpTo (List.map Predicate.anonymous) (conditions catalog root parts)
      (conditions catalog root parts) := by
  cases parts with
  | nil => exact .pure rfl
  | cons part rest =>
    rw [conditions]
    refine (agrees_condition part).bind fun _ _ hfirst => ?_
    refine (agrees_conditions rest).bind fun _ _ hrest => .pure ?_
    rw [List.map_cons, List.map_cons, hfirst, hrest]
termination_by structural parts

end

end Analysis

/-- Two runs of the analysis of a request fail with one error, or yield one statement up to the
identities of its nodes. -/
theorem Request.agrees_analyse (request : Request) (catalog : Catalog) :
    Building.AgreesUpTo Statement.anonymous (request.analyse catalog)
      (request.analyse catalog) := by
  unfold analyse
  refine (Building.Agrees.check _).bind fun _ _ _ => ?_
  dsimp only
  split
  · exact .pure rfl
  · refine (Analysis.agrees_condition _).bind fun _ _ hsame => .pure ?_
    simp only [Statement.anonymous, Option.map_some, hsame]

end QueryModel
