import QueryModel.Proofs.Query.Leaves

/-! # What a truth value depends on

A predicate reads the values of its leaves and nothing else. Main statement: two bindings that give
the same value to each parameter that is collected from a predicate and to each attribute among its
leaves give it the same truth value, and what is collected are all the parameters among its leaves.
-/

namespace QueryModel

/-- The alias and the name of the attribute that a scalar reads, if it reads one. -/
def Scalar.attribute? (scalar : Scalar) : Option (String × String) :=
  match scalar.source with
  | .path root attributeName => some (root.aliasName, attributeName)
  | .literal _ => none
  | .parameter _ => none

/-- Two bindings give the same value to each parameter of a predicate and to each attribute among
its leaves. -/
structure Predicate.ReadsSame (predicate : Predicate) (bindings other : Bindings) : Prop where
  parameter_eq : ∀ supplied ∈ predicate.parameters,
    bindings.parameter supplied = other.parameter supplied
  path_eq : ∀ read ∈ predicate.leaves.filterMap Scalar.attribute?,
    bindings.path read.1 read.2 = other.path read.1 read.2

variable {bindings other : Bindings}

/-- A comparison depends on the values of the leaves on its right. -/
theorem Expression.compared_congr {right : Expression}
    (hright : ∀ leaf ∈ right.leaves, leaf.value bindings = leaf.value other) (left : Value)
    (operator : Operator) :
    right.compared bindings left operator = right.compared other left operator := by
  cases right with
  | scalar node =>
    have hnode : node.value bindings = node.value other := hright node List.mem_cons_self
    rw [compared, compared, hnode]
  | list values =>
    have hvalues : values.elements.map (Scalar.value bindings) =
        values.elements.map (Scalar.value other) := List.map_congr_left hright
    simp only [compared, hvalues]

namespace Predicate

/-- A predicate depends on the values of its leaves. -/
theorem evaluate_congr {predicate : Predicate}
    (hleaves : ∀ leaf ∈ predicate.leaves, leaf.value bindings = leaf.value other) :
    predicate.evaluate bindings = predicate.evaluate other := by
  induction predicate with
  | comparison id left operator right =>
    obtain ⟨hleft, hright⟩ := List.forall_mem_cons.mp hleaves
    rw [evaluate, evaluate, hleft, Expression.compared_congr hright]
  | junction id left connective right ihleft ihright =>
    obtain ⟨hleft, hright⟩ := List.forall_mem_append.mp hleaves
    cases connective with
    | and => rw [evaluate, evaluate, ihleft hleft, ihright hright]
    | or => rw [evaluate, evaluate, ihleft hleft, ihright hright]
  | negation id inner ih => rw [evaluate, evaluate, ih hleaves]
  | nullness id operand negated =>
    have hoperand := hleaves operand List.mem_cons_self
    rw [evaluate, evaluate, hoperand]
  | between id operand lower upper negated =>
    obtain ⟨hoperand, hbounds⟩ := List.forall_mem_cons.mp hleaves
    obtain ⟨hlower, hlast⟩ := List.forall_mem_cons.mp hbounds
    have hupper := hlast upper List.mem_cons_self
    rw [evaluate, evaluate, hoperand, hlower, hupper]

theorem mem_parameters_iff {predicate : Predicate} {supplied : Parameter} :
    supplied ∈ predicate.parameters ↔
      ∃ leaf ∈ predicate.leaves, leaf.parameter? = some supplied := by
  rw [parameters_eq, List.mem_eraseDups, List.mem_filterMap]

/-- Bindings that agree on what a predicate reads agree on its leaves. -/
theorem ReadsSame.value_eq {predicate : Predicate} (hsame : predicate.ReadsSame bindings other)
    {leaf : Scalar} (hleaf : leaf ∈ predicate.leaves) :
    leaf.value bindings = leaf.value other := by
  unfold Scalar.value
  cases hsource : leaf.source with
  | literal value => rfl
  | parameter supplied =>
    have hparameter : leaf.parameter? = some supplied := by rw [Scalar.parameter?, hsource]
    exact hsame.parameter_eq supplied (mem_parameters_iff.mpr ⟨leaf, hleaf, hparameter⟩)
  | path root attributeName =>
    have hattribute : leaf.attribute? = some (root.aliasName, attributeName) := by
      rw [Scalar.attribute?, hsource]
    exact hsame.path_eq _ (List.mem_filterMap.mpr ⟨leaf, hleaf, hattribute⟩)

/-- The truth value of a predicate depends on the parameters that are collected from it and on the
attributes among its leaves only, and the parameters that are collected are those among its leaves,
each where it stands first. -/
theorem evaluate_eq_and_parameters_eq (predicate : Predicate) :
    (∀ bindings other, predicate.ReadsSame bindings other →
      predicate.evaluate bindings = predicate.evaluate other) ∧
    predicate.parameters = (predicate.leaves.filterMap Scalar.parameter?).eraseDups :=
  ⟨fun _ _ hsame => evaluate_congr fun _ => hsame.value_eq, predicate.parameters_eq⟩

/-- Whether it is not so that a name fits a pattern and an age is among two numbers, where all but
one of them are supplied. -/
def unlistedAge : Predicate :=
  .negation 9 (.junction 8
    (.comparison 2 ⟨0, .text, none, .path ⟨"user", "u"⟩ "name"⟩ .like
      (.scalar ⟨1, .text, none, .parameter (.positional 1)⟩)) .and
    (.comparison 7 ⟨3, .integer, none, .path ⟨"user", "u"⟩ "age"⟩ .isIn
      (.list ⟨6, .integer, none,
        [⟨4, .integer, none, .literal (.integer 3)⟩,
          ⟨5, .integer, none, .parameter (.named "age")⟩]⟩)))

/-- A parameter of the name of an attribute is not that attribute, nor is the attribute under
another alias. -/
theorem evaluate_eq_unlistedAge :
    let bindings := (((Bindings.empty.withPath "u" "name" (.string "Ann")).withPath "u" "age"
      (.integer 3)).withParameter (.positional 1) (.string "A%"))
    let other := (bindings.withPath "v" "age" (.integer 4)).withParameter (.named "name")
      (.string "Bob")
    unlistedAge.ReadsSame bindings other ∧ unlistedAge.evaluate other = .fails ∧
      unlistedAge.parameters = [.positional 1, .named "age"] := by
  intro bindings other
  have hsame : unlistedAge.ReadsSame bindings other :=
    { parameter_eq := by decide
      path_eq := by decide }
  obtain ⟨hevaluate, hparameters⟩ := unlistedAge.evaluate_eq_and_parameters_eq
  exact ⟨hsame, (hevaluate bindings other hsame).symm.trans (by decide),
    hparameters.trans (by decide)⟩

end Predicate

end QueryModel
