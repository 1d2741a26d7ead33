import Mathlib.Data.List.Induction
import QueryModel.Proofs.Query.Complement
import QueryModel.Proofs.Query.Success

/-! # Derived forms

A test for membership in a list and a test for lying between bounds say in one node what several
comparisons say that are joined. Main statement: the test and the joined comparisons can be built of
the same operands and have the same truth value, whatever is null or cannot be compared. What is
joined, of these comparisons or of any other predicates, is read off the truth values of its
members, in whatever order and however often they stand there.
-/

namespace QueryModel

/-! ## Junctions of several truth values -/

namespace Connective

/-- The truth value of a junction. -/
def combine : Connective → Truth → Truth → Truth
  | .and => Truth.and
  | .or => Truth.or

/-- The truth value of one side that decides a junction. -/
def deciding : Connective → Truth
  | .and => .fails
  | .or => .holds

variable (connective : Connective) (truth : Truth)

theorem deciding_dual : connective.dual.deciding = connective.deciding.not := by
  cases connective <;> rfl

theorem combine_deciding : connective.combine connective.deciding truth = connective.deciding := by
  cases connective <;> rfl

theorem combine_unknown :
    connective.combine .unknown truth =
      if truth = connective.deciding then connective.deciding else .unknown := by
  cases connective <;> cases truth <;> rfl

theorem combine_not_deciding : connective.combine connective.deciding.not truth = truth := by
  cases connective <;> cases truth <;> rfl

end Connective

namespace Truth

/-- The truth value of several truth values joined: that which decides a junction if it is one of
them, otherwise unknown if one of them is. -/
def combined (connective : Connective) (members : List Truth) : Truth :=
  if connective.deciding ∈ members then connective.deciding
  else if .unknown ∈ members then .unknown
  else connective.deciding.not

variable (connective : Connective)

theorem combined_append_singleton (members : List Truth) (last : Truth) :
    combined connective (members ++ [last]) =
      connective.combine (combined connective members) last := by
  by_cases hdeciding : connective.deciding ∈ members
  · simp [combined, hdeciding, connective.combine_deciding]
  by_cases hunknown : .unknown ∈ members
  · simp [combined, hdeciding, hunknown, connective.combine_unknown, eq_comm]
  · -- All members so far leave the junction to the last one.
    have hlast : combined connective [last] = last := by
      cases connective <;> cases last <;> rfl
    simp only [combined, List.mem_append, hdeciding, hunknown, false_or, if_false,
      connective.combine_not_deciding]
    exact hlast

theorem foldl_combine (members : List Truth) :
    members.foldl connective.combine connective.deciding.not = combined connective members := by
  induction members using List.reverseRecOn with
  | nil => rfl
  | append_singleton members last ih =>
    rw [List.foldl_append, List.foldl_cons, List.foldl_nil, ih, combined_append_singleton]

/-- De Morgan's law for several truth values. -/
theorem not_combined (members : List Truth) :
    (combined connective members).not = combined connective.dual (members.map Truth.not) := by
  have hmem (truth : Truth) : truth ∈ members.map Truth.not ↔ truth.not ∈ members := by
    rw [List.mem_map]
    constructor
    · rintro ⟨member, hmember, rfl⟩
      rwa [not_not]
    · intro hmember
      exact ⟨truth.not, hmember, not_not truth⟩
  have hunknown : Truth.not .unknown = .unknown := rfl
  simp only [combined, hmem, connective.deciding_dual, not_not, hunknown, apply_ite Truth.not]

theorem combined_congr {members others : List Truth}
    (hsame : ∀ truth, truth ∈ members ↔ truth ∈ others) :
    combined connective members = combined connective others := by
  simp only [combined, hsame]

end Truth

/-! ## Comparisons with several values -/

namespace Value

/-- A value is among others if it equals one of them. -/
theorem isAmong_eq (value : Value) (others : List Value) :
    value.isAmong others = Truth.combined .or (others.map (value.compared .equals)) := by
  rw [← Truth.foldl_combine, List.foldl_map]
  rfl

/-- A value is not among others if it differs from all of them. -/
theorem not_isAmong_eq (value : Value) (others : List Value) :
    (value.isAmong others).not = Truth.combined .and (others.map (value.compared .notEquals)) := by
  rw [isAmong_eq, Truth.not_combined, List.map_map]
  congr 2
  funext other
  exact (value.compared_complement other .equals).symm

/-- A value is not between two bounds if it is below the one or above the other. -/
theorem not_between_eq (value lower upper : Value) :
    ((value.compared .greaterThanOrEqual lower).and (value.compared .lessThanOrEqual upper)).not =
      (value.compared .lessThan lower).or (value.compared .greaterThan upper) := by
  rw [Truth.not_and]
  congr 1
  · exact (value.compared_complement lower .greaterThanOrEqual).symm
  · exact (value.compared_complement upper .lessThanOrEqual).symm

end Value

theorem Predicate.evaluate_junction (bindings : Bindings) (id : NodeId) (left : Predicate)
    (connective : Connective) (right : Predicate) :
    (junction id left connective right).evaluate bindings =
      connective.combine (left.evaluate bindings) (right.evaluate bindings) := by
  cases connective <;> rfl

namespace Building

/-- Predicates that are joined have the truth value of their truth values joined. -/
theorem IsJoined.evaluate_eq {connective : Connective} {predicates : List Predicate}
    {joined : Predicate} (hjoined : IsJoined connective predicates joined) (bindings : Bindings) :
    joined.evaluate bindings =
      Truth.combined connective (predicates.map (Predicate.evaluate bindings)) := by
  induction hjoined with
  | single predicate =>
    have hsingle := Truth.combined_append_singleton connective [] (predicate.evaluate bindings)
    exact (hsingle.trans (connective.combine_not_deciding _)).symm
  | join id hleft right ih =>
    rw [Predicate.evaluate_junction, ih, List.map_append, List.map_singleton,
      Truth.combined_append_singleton]

/-! ## What is built -/

/-- From whatever identity it starts, a computation builds a predicate, and its truth value is
given by `meaning`. -/
def Means (build : Building ConstructionError Predicate) (meaning : Bindings → Truth) : Prop :=
  SucceedsIff build True fun made => ∀ bindings, made.evaluate bindings = meaning bindings

/-- From whatever identities they start, two computations build predicates with the same truth
value under all bindings. -/
def MeansSame (build other : Building ConstructionError Predicate) : Prop :=
  ∀ next otherNext, ∃ made later counterpart otherLater,
    build next = .ok (made, later) ∧ other otherNext = .ok (counterpart, otherLater) ∧
      ∀ bindings, made.evaluate bindings = counterpart.evaluate bindings

namespace Means

variable {build other : Building ConstructionError Predicate} {meaning : Bindings → Truth}

theorem congr {changed : Bindings → Truth} (hbuild : Means build meaning)
    (hsame : ∀ bindings, meaning bindings = changed bindings) : Means build changed :=
  hbuild.mono fun _ _ hmade bindings => (hmade bindings).trans (hsame bindings)

theorem meansSame (hbuild : Means build meaning) (hother : Means other meaning) :
    MeansSame build other := by
  intro next otherNext
  obtain ⟨made, later, hmade⟩ := (hbuild next).1 trivial
  obtain ⟨counterpart, otherLater, hcounterpart⟩ := (hother otherNext).1 trivial
  refine ⟨made, later, counterpart, otherLater, hmade, hcounterpart, fun bindings => ?_⟩
  exact (hbuild.made_of_eq_ok hmade bindings).trans
    (hother.made_of_eq_ok hcounterpart bindings).symm

end Means

/-- A test for membership in a list of the elements. -/
def membership (operand : Expression) (operator : Operator) (elements : List Expression) :
    Building ConstructionError Predicate := do
  let values ← list elements
  comparison operand operator (.list values)

/-- The comparisons of an operand with each of several, joined. -/
def comparisons (operand : Expression) (operator : Operator) (connective : Connective)
    (others : List Expression) : Building ConstructionError Predicate := do
  let predicates ← others.mapM (comparison operand operator)
  junctionAll connective predicates

/-- Two comparisons of an operand, joined. -/
def twoComparisons (operand : Expression) (first : Operator) (lower : Expression)
    (connective : Connective) (second : Operator) (upper : Expression) :
    Building ConstructionError Predicate := do
  let left ← comparison operand first lower
  let right ← comparison operand second upper
  junction left connective right

theorem means_junctionAll (connective : Connective) {predicates : List Predicate}
    (hne : predicates ≠ []) :
    Means (junctionAll connective predicates) fun bindings =>
      Truth.combined connective (predicates.map (Predicate.evaluate bindings)) :=
  ((succeedsIff_junctionAll connective predicates).always hne).mono
    fun _ _ hjoined => hjoined.evaluate_eq

section scalars

variable (node : Scalar)

theorem means_comparison {operator : Operator} (hsingle : operator.isMultiValued = false)
    (right : Scalar) :
    Means (comparison (.scalar node) operator (.scalar right)) fun bindings =>
      (node.value bindings).compared operator (right.value bindings) := by
  have hbuilt := succeedsIff_comparison (.scalar node) operator (.scalar right)
  refine (hbuilt.always ⟨rfl, hsingle.symm⟩).mono ?_
  rintro _ - ⟨id, _, ⟨⟩, rfl⟩ bindings
  rfl

theorem means_comparisons {operator : Operator} (hsingle : operator.isMultiValued = false)
    (connective : Connective) {scalars : List Scalar} (hne : scalars ≠ []) :
    Means (comparisons (.scalar node) operator connective (scalars.map .scalar)) fun bindings =>
      Truth.combined connective
        ((scalars.map (Scalar.value bindings)).map ((node.value bindings).compared operator)) := by
  have hbuilt := SucceedsIff.mapM_always fun right (_ : right ∈ scalars) =>
    means_comparison node hsingle right
  unfold comparisons
  rw [List.mapM_map]
  refine hbuilt.bind_always fun predicates hpredicates => ?_
  have hpredicatesNe : predicates ≠ [] := by
    rintro rfl
    cases hpredicates
    exact hne rfl
  refine (means_junctionAll connective hpredicatesNe).congr fun bindings => ?_
  -- The comparisons were built one for each scalar, so their truth values are compared in pairs.
  have hvalues : List.Forall₂ Eq (predicates.map (Predicate.evaluate bindings))
      ((scalars.map (Scalar.value bindings)).map ((node.value bindings).compared operator)) := by
    rw [List.map_map, List.forall₂_map_left_iff, List.forall₂_map_right_iff]
    exact hpredicates.flip.imp fun _ _ hvalue => hvalue bindings
  rw [List.forall₂_eq_eq_eq] at hvalues
  rw [hvalues]

theorem succeedsIff_list_map_scalar {scalars : List Scalar} (hne : scalars ≠ []) :
    SucceedsIff (list (scalars.map .scalar)) True fun made => made.elements = scalars := by
  have hshape : scalars.map Expression.scalar ≠ [] ∧
      ∀ element ∈ scalars.map Expression.scalar, element.isList = false :=
    ⟨List.map_eq_nil_iff.not.mpr hne, exists_eq_map_scalar_iff.mp ⟨scalars, rfl⟩⟩
  refine ((succeedsIff_list _).always hshape).mono ?_
  rintro _ - ⟨id, first, rest, hscalars, rfl⟩
  exact (List.map_injective_iff.mpr (fun _ _ => Expression.scalar.inj) hscalars).symm

theorem succeedsIff_membership {operator : Operator} (hmany : operator.isMultiValued = true)
    {scalars : List Scalar} (hne : scalars ≠ []) :
    SucceedsIff (membership (.scalar node) operator (scalars.map .scalar)) True fun made =>
      ∃ id values, values.elements = scalars ∧
        made = .comparison id node operator (.list values) := by
  unfold membership
  refine (succeedsIff_list_map_scalar hne).bind_always fun values hvalues => ?_
  have hbuilt := succeedsIff_comparison (.scalar node) operator (.list values)
  refine (hbuilt.always ⟨rfl, hmany.symm⟩).mono ?_
  rintro _ - ⟨id, _, ⟨⟩, rfl⟩
  exact ⟨id, values, hvalues, rfl⟩

theorem means_isIn {scalars : List Scalar} (hne : scalars ≠ []) :
    Means (membership (.scalar node) .isIn (scalars.map .scalar)) fun bindings =>
      Truth.combined .or
        ((scalars.map (Scalar.value bindings)).map ((node.value bindings).compared .equals)) := by
  refine (succeedsIff_membership node rfl hne).mono ?_
  rintro _ - ⟨id, values, rfl, rfl⟩ bindings
  exact (node.value bindings).isAmong_eq _

theorem means_notIn {scalars : List Scalar} (hne : scalars ≠ []) :
    Means (membership (.scalar node) .notIn (scalars.map .scalar)) fun bindings =>
      Truth.combined .and
        ((scalars.map (Scalar.value bindings)).map
          ((node.value bindings).compared .notEquals)) := by
  refine (succeedsIff_membership node rfl hne).mono ?_
  rintro _ - ⟨id, values, rfl, rfl⟩ bindings
  exact (node.value bindings).not_isAmong_eq _

theorem means_twoComparisons {first second : Operator} (hfirst : first.isMultiValued = false)
    (hsecond : second.isMultiValued = false) (lower upper : Scalar) (connective : Connective) :
    Means (twoComparisons (.scalar node) first (.scalar lower) connective second (.scalar upper))
      fun bindings => connective.combine
        ((node.value bindings).compared first (lower.value bindings))
        ((node.value bindings).compared second (upper.value bindings)) := by
  unfold twoComparisons
  refine (means_comparison node hfirst lower).bind_always fun left hleft => ?_
  refine (means_comparison node hsecond upper).bind_always fun right hright => ?_
  refine SucceedsIff.fresh_node fun id bindings => ?_
  rw [Predicate.evaluate_junction, hleft bindings, hright bindings]

theorem means_between (lower upper : Scalar) (negated : Bool) :
    Means (between (.scalar node) (.scalar lower) (.scalar upper) negated) fun bindings =>
      Truth.negateIf negated
        (((node.value bindings).compared .greaterThanOrEqual (lower.value bindings)).and
          ((node.value bindings).compared .lessThanOrEqual (upper.value bindings))) :=
  SucceedsIff.fresh_node fun _ _ => rfl

end scalars

/-- The derived forms over an operand mean what they stand for. -/
structure ExpandsForms (operand lower upper : Expression) (elements : List Expression) : Prop where
  isIn : MeansSame (membership operand .isIn elements) (comparisons operand .equals .or elements)
  notIn : MeansSame (membership operand .notIn elements)
    (comparisons operand .notEquals .and elements)
  isBetween : MeansSame (between operand lower upper false)
    (twoComparisons operand .greaterThanOrEqual lower .and .lessThanOrEqual upper)
  isNotBetween : MeansSame (between operand lower upper true)
    (twoComparisons operand .lessThan lower .or .greaterThan upper)

/-- Predicates that are joined have the truth value of their truth values joined, in whatever order
and however often they stand there. -/
structure JoinsMembers (connective : Connective) (members : List Predicate) : Prop where
  means : Means (junctionAll connective members) fun bindings =>
    Truth.combined connective (members.map (Predicate.evaluate bindings))
  any_order : ∀ others : List Predicate, (∀ member, member ∈ members ↔ member ∈ others) →
    MeansSame (junctionAll connective members) (junctionAll connective others)

theorem expandsForms {operand lower upper : Expression} {elements : List Expression}
    (hoperand : operand.isList = false) (hlower : lower.isList = false)
    (hupper : upper.isList = false) (hne : elements ≠ [])
    (helements : ∀ element ∈ elements, element.isList = false) :
    ExpandsForms operand lower upper elements := by
  obtain ⟨node, rfl⟩ := exists_eq_scalar hoperand
  obtain ⟨low, rfl⟩ := exists_eq_scalar hlower
  obtain ⟨high, rfl⟩ := exists_eq_scalar hupper
  obtain ⟨scalars, rfl⟩ := exists_eq_map_scalar_iff.mpr helements
  have hscalars : scalars ≠ [] := by
    rintro rfl
    exact hne rfl
  have hnot : Means (between (.scalar node) (.scalar low) (.scalar high) true)
      fun bindings => Connective.combine .or
        ((node.value bindings).compared .lessThan (low.value bindings))
        ((node.value bindings).compared .greaterThan (high.value bindings)) :=
    (means_between node low high true).congr fun _ => Value.not_between_eq _ _ _
  exact
    { isIn := (means_isIn node hscalars).meansSame (means_comparisons node rfl .or hscalars)
      notIn := (means_notIn node hscalars).meansSame (means_comparisons node rfl .and hscalars)
      isBetween := (means_between node low high false).meansSame
        (means_twoComparisons node rfl rfl low high .and)
      isNotBetween := hnot.meansSame (means_twoComparisons node rfl rfl low high .or) }

theorem joinsMembers (connective : Connective) {members : List Predicate} (hne : members ≠ []) :
    JoinsMembers connective members where
  means := means_junctionAll connective hne
  any_order others hsame := by
    have hothers : others ≠ [] := by
      obtain ⟨member, hmember⟩ := List.exists_mem_of_ne_nil members hne
      exact List.ne_nil_of_mem ((hsame member).mp hmember)
    have hsameTruth (bindings : Bindings) :
        Truth.combined connective (members.map (Predicate.evaluate bindings)) =
          Truth.combined connective (others.map (Predicate.evaluate bindings)) :=
      Truth.combined_congr connective fun truth => by simp only [List.mem_map, hsame]
    exact ((means_junctionAll connective hne).congr hsameTruth).meansSame
      (means_junctionAll connective hothers)

/-- Tests for membership and for lying between bounds mean what they stand for, and junctions are
read off their members. -/
theorem expandsForms_and_joinsMembers {operand lower upper : Expression}
    {elements : List Expression} (hoperand : operand.isList = false)
    (hlower : lower.isList = false) (hupper : upper.isList = false) (hne : elements ≠ [])
    (helements : ∀ element ∈ elements, element.isList = false) :
    ExpandsForms operand lower upper elements ∧
      ∀ connective members, members ≠ [] → JoinsMembers connective members :=
  ⟨expandsForms hoperand hlower hupper hne helements, fun connective _ => joinsMembers connective⟩

/-- An age that differs from the first element of a list and is not known to differ from the second
one is not known to be missing in the list. -/
theorem expandsForms_and_joinsMembers_age :
    let age : Expression := .scalar ⟨0, .integer, none, .path ⟨"user", "u"⟩ "age"⟩
    let three : Expression := .scalar ⟨1, .integer, none, .literal (.integer 3)⟩
    let supplied : Expression := .scalar ⟨2, .integer, none, .parameter (.named "age")⟩
    let older : Predicate := .comparison 4 ⟨0, .integer, none, .path ⟨"user", "u"⟩ "age"⟩
      .greaterThan (.scalar ⟨3, .integer, none, .literal (.integer 3)⟩)
    let bindings := Bindings.empty.withPath "u" "age" (.integer 7)
    (∃ made later, comparisons age .notEquals .and [three, supplied] 5 = .ok (made, later) ∧
      made.evaluate bindings = .unknown) ∧
    ∃ made later, junctionAll .or [older, older] 5 = .ok (made, later) ∧
      made.evaluate bindings = .holds := by
  intro age three supplied older bindings
  have hage : age.isList = false := rfl
  have hthree : three.isList = false := rfl
  have hsupplied : supplied.isList = false := rfl
  have hne : [three, supplied] ≠ [] := List.cons_ne_nil _ _
  have helements : ∀ element ∈ [three, supplied], element.isList = false :=
    List.forall_mem_cons.mpr ⟨hthree, List.forall_mem_singleton.mpr hsupplied⟩
  obtain ⟨hforms, hjoins⟩ := expandsForms_and_joinsMembers hage hthree hsupplied hne helements
  constructor
  · obtain ⟨test, _, made, later, htest, hmade, hsame⟩ := hforms.notIn 5 5
    cases htest
    exact ⟨made, later, hmade, (hsame bindings).symm.trans (by decide)⟩
  · have hjoined := (hjoins .or [older, older] (List.cons_ne_nil _ _)).means
    obtain ⟨made, later, hmade⟩ := (hjoined 5).1 trivial
    exact ⟨made, later, hmade, (hjoined.made_of_eq_ok hmade bindings).trans (by decide)⟩

end Building

end QueryModel
