import QueryModel.Proofs.Query.Extension
import QueryModel.Query.Building

/-! # Building extends the store

Every function that builds nodes, started from a store that has its operands, ends in a larger
store that has what it built.
-/

namespace QueryModel

namespace Building

/-- Started from the next identity of a store, a computation that succeeds ends in a larger store,
and `made` holds of its value there. -/
abbrev Extends {ε α : Type} (build : Building ε α) (store : NodeStore)
    (made : α → NodeStore → Prop) : Prop :=
  ExtendsIfOk (fun store next => store.next = next) build store made

section rules

variable {ε α : Type} {store : NodeStore}

theorem extends_fail {made : α → NodeStore → Prop} {error : ε} :
    Extends (fail error) store made := by
  rintro _ _ _ _ ⟨⟩

theorem extends_fresh :
    Extends (fresh : Building ε NodeId) store fun id larger => larger.IsUnused id := by
  rintro _ rfl _ _ ⟨⟩
  exact ⟨store.elapse (Nat.le_succ _), store.le_elapse _, rfl, store.isUnused_elapse⟩

/-- What is returned with a new identity is a new node. -/
theorem extends_fresh_node {value : NodeId → α} {made : α → NodeStore → Prop}
    (node : NodeId → Node) (hid : ∀ id, (node id).id = id)
    (hoperands : ∀ id, ∀ operand ∈ (node id).operands, operand ∈ store)
    (hshaped : ∀ id, (node id).IsShaped)
    (hmade : ∀ id larger, node id ∈ larger → made (value id) larger) :
    Extends (fresh >>= fun id => pure (value id) : Building ε α) store made := by
  refine extends_fresh.bind fun id larger hle hunused => ?_
  rintro _ rfl _ _ ⟨⟩
  rw [← hid id] at hunused
  have hlarger := fun operand hoperand => NodeStore.mem_of_le hle (hoperands id operand hoperand)
  exact ⟨larger.insert (node id) hunused hlarger (hshaped id), larger.le_insert .., rfl,
    hmade id _ (larger.mem_insert_self ..)⟩

end rules

/-! ## Expressions -/

section expressions

variable {ε : Type} {store : NodeStore}

theorem extends_scalar {type : ScalarType} {source : Source}
    (hfinite : ∀ x, source = .literal (.float x) → x.isFinite) :
    Extends (scalar type source : Building ε Scalar) store fun made larger =>
      Node.expression (.scalar made) ∈ larger := by
  exact extends_fresh_node (fun id => .expression (.scalar ⟨id, type, none, source⟩))
    (fun _ => rfl) (fun _ => Node.forall_operands_scalar _) (fun _ => hfinite)
    fun _ _ hnode => hnode

theorem extends_typedLiteral (value : Value) (type : ScalarType) :
    Extends (typedLiteral value type) store fun made larger =>
      Node.expression (.scalar made) ∈ larger := by
  unfold typedLiteral
  split
  · next x =>
    split
    · next hfinite =>
      refine extends_scalar fun y hy => ?_
      cases hy
      exact hfinite
    · exact extends_fail
  · next hother =>
    refine extends_scalar fun x hx => ?_
    cases hx
    exact (hother x rfl).elim

theorem extends_literal (value : Value) :
    Extends (literal value) store fun made larger => Node.expression (.scalar made) ∈ larger :=
  extends_typedLiteral value _

theorem extends_parameter (given : Parameter) (type : ScalarType) :
    Extends (parameter given type : Building ε Scalar) store fun made larger =>
      Node.expression (.scalar made) ∈ larger :=
  extends_scalar (by simp)

theorem extends_path (catalog : Catalog) (root : Root) (attributeName : String) :
    Extends (path catalog root attributeName : Building ε Scalar) store fun made larger =>
      Node.expression (.scalar made) ∈ larger :=
  extends_scalar (by simp)

/-- What is taken for a list of scalars is a list of the given expressions. -/
theorem mem_of_mapM_scalar? {elements : List Expression} {scalars : List Scalar}
    (hscalars : elements.mapM Expression.scalar? = some scalars) :
    elements = scalars.map .scalar := by
  induction elements generalizing scalars with
  | nil => simp_all
  | cons element rest ih =>
    cases element with
    | list values => simp [Expression.scalar?] at hscalars
    | scalar node =>
      simp only [List.mapM_cons, Expression.scalar?, Option.pure_def, Option.bind_eq_bind,
        Option.bind_some, Option.bind_eq_some_iff, Option.some.injEq] at hscalars
      obtain ⟨others, hothers, rfl⟩ := hscalars
      rw [ih hothers, List.map_cons]

/-- Where a change of expressions keeps their sorts, lists of scalars become lists of scalars. -/
theorem mapM_scalar?_map {change : Expression → Expression} {changeScalar : Scalar → Scalar}
    (hchange : ∀ element, (change element).scalar? = element.scalar?.map changeScalar)
    (elements : List Expression) :
    (elements.map change).mapM Expression.scalar? =
      (elements.mapM Expression.scalar?).map (List.map changeScalar) := by
  induction elements with
  | nil => rfl
  | cons element rest ih =>
    rw [List.map_cons, List.mapM_cons, List.mapM_cons, ih, hchange]
    cases element with
    | list values => rfl
    | scalar node => cases rest.mapM Expression.scalar? <;> rfl

theorem extends_list {elements : List Expression}
    (helements : ∀ element ∈ elements, Node.expression element ∈ store) :
    Extends (list elements) store fun made larger => Node.expression (.list made) ∈ larger := by
  unfold list
  split
  · exact extends_fail
  · next first rest =>
    split
    · exact extends_fail
    · next scalars hscalars =>
      have hmap := mem_of_mapM_scalar? hscalars
      refine extends_fresh_node (fun id => .expression (.list ⟨id, first.type, none, scalars⟩))
        (fun _ => rfl) (fun _ => ?_) (fun _ => ?_) fun _ _ hnode => hnode
      · rw [Node.forall_operands_list]
        intro scalar hscalar
        apply helements
        rw [hmap]
        exact List.mem_map_of_mem hscalar
      · rintro rfl
        simp at hmap

theorem extends_aliased {expression : Expression} (aliasName : String)
    (hexpression : Node.expression expression ∈ store) :
    Extends (aliased expression aliasName : Building ε Expression) store fun made larger =>
      Node.expression made ∈ larger := by
  unfold aliased
  have hshaped := store.isShaped hexpression
  have hoperands := store.operand_mem hexpression
  cases expression with
  | scalar node =>
    exact extends_fresh_node
      (fun id => .expression (.scalar { node with id := id, aliasName := some aliasName }))
      (fun _ => rfl) (fun _ => hoperands) (fun _ => hshaped) fun _ _ hnode => hnode
  | list values =>
    exact extends_fresh_node
      (fun id => .expression (.list { values with id := id, aliasName := some aliasName }))
      (fun _ => rfl) (fun _ => hoperands) (fun _ => hshaped) fun _ _ hnode => hnode

end expressions

/-! ## Predicates -/

section predicates

variable {ε : Type} {store : NodeStore}

theorem extends_comparison {left right : Expression} {operator : Operator}
    (hleft : Node.expression left ∈ store) (hright : Node.expression right ∈ store) :
    Extends (comparison left operator right) store fun made larger =>
      Node.predicate made ∈ larger := by
  unfold comparison
  cases left with
  | list values => exact extends_fail
  | scalar node =>
    dsimp only
    split
    · exact extends_fail
    · split
      · exact extends_fail
      · next hrequired hunexpected =>
        refine extends_fresh_node (fun id => .predicate (.comparison id node operator right))
          (fun _ => rfl) (fun _ => Node.forall_operands_comparison.mpr ⟨hleft, hright⟩)
          (fun _ => ?_) fun _ _ hnode => hnode
        simp only [Node.IsShaped]
        cases hmulti : operator.isMultiValued <;> cases hlist : right.isList <;> simp_all

theorem extends_junction {left right : Predicate} (connective : Connective)
    (hleft : Node.predicate left ∈ store) (hright : Node.predicate right ∈ store) :
    Extends (junction left connective right : Building ε Predicate) store fun made larger =>
      Node.predicate made ∈ larger := by
  exact extends_fresh_node (fun id => .predicate (.junction id left connective right))
    (fun _ => rfl) (fun _ => Node.forall_operands_junction.mpr ⟨hleft, hright⟩) (fun _ => trivial)
    fun _ _ hnode => hnode

theorem extends_junctionAll {predicates : List Predicate} (connective : Connective)
    (hpredicates : ∀ predicate ∈ predicates, Node.predicate predicate ∈ store) :
    Extends (junctionAll connective predicates) store fun made larger =>
      Node.predicate made ∈ larger := by
  unfold junctionAll
  cases predicates with
  | nil => exact extends_fail
  | cons first rest =>
    rw [List.forall_mem_cons] at hpredicates
    obtain ⟨hfirst, hrest⟩ := hpredicates
    dsimp only
    induction rest generalizing first store with
    | nil => exact ExtendsIfOk.pure hfirst
    | cons second rest ih =>
      rw [List.forall_mem_cons] at hrest
      rw [List.foldlM_cons]
      refine (extends_junction connective hfirst hrest.1).bind fun joined larger hle hjoined => ?_
      exact ih joined hjoined fun predicate hmem => NodeStore.mem_of_le hle (hrest.2 predicate hmem)

theorem extends_negation {inner : Predicate} (hinner : Node.predicate inner ∈ store) :
    Extends (negation inner : Building ε Predicate) store fun made larger =>
      Node.predicate made ∈ larger := by
  exact extends_fresh_node (fun id => .predicate (.negation id inner)) (fun _ => rfl)
    (fun _ => Node.forall_operands_negation.mpr hinner) (fun _ => trivial) fun _ _ hnode => hnode

theorem extends_nullness {operand : Expression} (negated : Bool)
    (hoperand : Node.expression operand ∈ store) :
    Extends (nullness operand negated) store fun made larger => Node.predicate made ∈ larger := by
  unfold nullness
  cases operand with
  | list values => exact extends_fail
  | scalar node =>
    exact extends_fresh_node (fun id => .predicate (.nullness id node negated)) (fun _ => rfl)
      (fun _ => Node.forall_operands_nullness.mpr hoperand) (fun _ => trivial)
      fun _ _ hnode => hnode

theorem extends_between {operand lower upper : Expression} (negated : Bool)
    (hoperand : Node.expression operand ∈ store) (hlower : Node.expression lower ∈ store)
    (hupper : Node.expression upper ∈ store) :
    Extends (between operand lower upper negated) store fun made larger =>
      Node.predicate made ∈ larger := by
  unfold between
  split
  · next operand lower upper =>
    exact extends_fresh_node (fun id => .predicate (.between id operand lower upper negated))
      (fun _ => rfl) (fun _ => Node.forall_operands_between.mpr ⟨hoperand, hlower, hupper⟩)
      (fun _ => trivial) fun _ _ hnode => hnode
  · exact extends_fail

end predicates

end Building

end QueryModel
