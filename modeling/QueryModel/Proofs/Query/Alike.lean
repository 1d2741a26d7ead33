import Mathlib.Data.List.Forall2
import QueryModel.Proofs.Query.Anonymous
import QueryModel.Proofs.Query.Scalars

/-! # Trees that are written alike

Two predicates are alike if they are the same tree, up to what the text of a query does not show and
up to the grouping of the operands in a chain of one connective. Alike predicates have one text, and
predicates are alike if their chains are, operand by operand.
-/

namespace QueryModel

theorem Expression.shown_anonymous (expression : Expression) :
    expression.anonymous.shown = expression.shown := by
  cases expression with
  | scalar node => rfl
  | list values =>
    simp only [anonymous, shown, leaves, ValueList.anonymous, List.map_map, isList]
    rfl

namespace Predicate

/-- `left.Alike right`: the same tree, up to identities, types, aliases, the entities of roots, and
the grouping of junctions of one connective. -/
inductive Alike : Predicate → Predicate → Prop
  | comparison (id other : NodeId) {left left' : Scalar} (operator : Operator)
      {right right' : Expression} (hleft : left.shown = left'.shown)
      (hright : right.shown = right'.shown) :
      Alike (.comparison id left operator right) (.comparison other left' operator right')
  | junction (id other : NodeId) {left left' right right' : Predicate} (connective : Connective)
      (hleft : Alike left left') (hright : Alike right right') :
      Alike (.junction id left connective right) (.junction other left' connective right')
  | negation (id other : NodeId) {inner inner' : Predicate} (hinner : Alike inner inner') :
      Alike (.negation id inner) (.negation other inner')
  | nullness (id other : NodeId) {operand operand' : Scalar} (negated : Bool)
      (hoperand : operand.shown = operand'.shown) :
      Alike (.nullness id operand negated) (.nullness other operand' negated)
  | between (id other : NodeId) {operand operand' lower lower' upper upper' : Scalar}
      (negated : Bool) (hoperand : operand.shown = operand'.shown)
      (hlower : lower.shown = lower'.shown) (hupper : upper.shown = upper'.shown) :
      Alike (.between id operand lower upper negated)
        (.between other operand' lower' upper' negated)
  | regroup (outer inner outer' inner' : NodeId) (first : Predicate) (connective : Connective)
      (second third : Predicate) :
      Alike (.junction outer (.junction inner first connective second) connective third)
        (.junction outer' first connective (.junction inner' second connective third))
  | symm {left right : Predicate} (halike : Alike left right) : Alike right left
  | trans {first second third : Predicate} (hfirst : Alike first second)
      (hsecond : Alike second third) : Alike first third

theorem Alike.refl (predicate : Predicate) : Alike predicate predicate := by
  induction predicate with
  | comparison id left operator right => exact .comparison id id operator rfl rfl
  | junction id left connective right ihleft ihright =>
    exact .junction id id connective ihleft ihright
  | negation id inner ih => exact .negation id id ih
  | nullness id operand negated => exact .nullness id id negated rfl
  | between id operand lower upper negated => exact .between id id negated rfl rfl rfl

theorem alike_anonymous (predicate : Predicate) : Alike predicate.anonymous predicate := by
  induction predicate with
  | comparison id left operator right =>
    exact .comparison 0 id operator rfl right.shown_anonymous
  | junction id left connective right ihleft ihright =>
    exact .junction 0 id connective ihleft ihright
  | negation id inner ih => exact .negation 0 id ih
  | nullness id operand negated => exact .nullness 0 id negated rfl
  | between id operand lower upper negated => exact .between 0 id negated rfl rfl rfl

end Predicate

/-! ## Alike predicates have one text -/

theorem Source.text_shown (source : Source) : source.shown.text = source.text := by
  cases source <;> rfl

theorem Scalar.hql_eq_of_shown {left right : Scalar} (hshown : left.shown = right.shown) :
    left.hql = right.hql := by
  refine String.ext ?_
  rw [Source.toList_hql, Source.toList_hql, ← Source.text_shown, ← Source.text_shown right.source]
  exact congrArg Source.text hshown

theorem Hql.commaSeparated_eq_of_shown {left right : List Scalar}
    (hshown : left.map Scalar.shown = right.map Scalar.shown) :
    commaSeparated left = commaSeparated right := by
  induction left generalizing right with
  | nil => rw [List.map_eq_nil_iff.mp hshown.symm]
  | cons scalar left ih =>
    cases right with
    | nil => cases hshown
    | cons other right =>
      obtain ⟨hscalar, hrest⟩ := List.cons.inj hshown
      have hempty : left.isEmpty = right.isEmpty := by
        simpa using congrArg List.isEmpty hrest
      refine String.ext ?_
      rw [toList_commaSeparated_cons, toList_commaSeparated_cons, Scalar.hql_eq_of_shown hscalar,
        ih hrest, hempty]

theorem Expression.hql_eq_of_shown {left right : Expression} (hshown : left.shown = right.shown) :
    left.hql = right.hql := by
  obtain ⟨hlist, hleaves⟩ := Prod.mk.inj hshown
  cases left with
  | scalar node =>
    cases right with
    | scalar other => exact Scalar.hql_eq_of_shown (List.cons.inj hleaves).1
    | list values => cases hlist
  | list values =>
    cases right with
    | scalar node => cases hlist
    | list others =>
      have hvalues : Hql.commaSeparated values.elements = Hql.commaSeparated others.elements :=
        Hql.commaSeparated_eq_of_shown hleaves
      simp only [hql, hvalues]

/-- How tightly a connective holds its operands together. -/
def Connective.strength : Connective → Nat
  | .or => 1
  | .and => 2

namespace Predicate

/-- The text of a predicate as an operand of a connective. -/
def operandText (connective : Connective) (predicate : Predicate) : String :=
  parenthesised (predicate.bindingStrength < connective.strength) predicate.hql

theorem hql_junction (id : NodeId) (left : Predicate) (connective : Connective)
    (right : Predicate) :
    (junction id left connective right).hql =
      left.operandText connective ++ Hql.connective connective ++ right.operandText connective := by
  cases connective <;> rfl

/-- A junction is no tighter than its connective needs, so it stands without parentheses. -/
theorem operandText_junction (id : NodeId) (left : Predicate) (connective : Connective)
    (right : Predicate) :
    (junction id left connective right).operandText connective =
      (junction id left connective right).hql := by
  cases connective <;> rfl

theorem Alike.hql_eq_and {left right : Predicate} (halike : Alike left right) :
    left.hql = right.hql ∧ left.bindingStrength = right.bindingStrength := by
  induction halike with
  | comparison id other operator hleft hright =>
    exact ⟨by simp only [hql, Scalar.hql_eq_of_shown hleft, Expression.hql_eq_of_shown hright], rfl⟩
  | junction id other connective hleft hright ihleft ihright =>
    refine ⟨?_, by cases connective <;> rfl⟩
    simp only [hql_junction, operandText, ihleft, ihright]
  | negation id other hinner ih =>
    refine ⟨?_, rfl⟩
    rw [hql, hql, ih.1, ih.2]
    rfl
  | nullness id other negated hoperand =>
    exact ⟨by simp only [hql, Scalar.hql_eq_of_shown hoperand], rfl⟩
  | between id other negated hoperand hlower hupper =>
    exact ⟨by simp only [hql, Scalar.hql_eq_of_shown hoperand, Scalar.hql_eq_of_shown hlower,
      Scalar.hql_eq_of_shown hupper], rfl⟩
  | regroup outer inner outer' inner' first connective second third =>
    refine ⟨?_, by cases connective <;> rfl⟩
    simp only [hql_junction, operandText_junction, String.append_assoc]
  | symm _ ih => exact ⟨ih.1.symm, ih.2.symm⟩
  | trans _ _ ihfirst ihsecond => exact ⟨ihfirst.1.trans ihsecond.1, ihfirst.2.trans ihsecond.2⟩

/-- Alike predicates have one text. -/
theorem Alike.hql_eq {left right : Predicate} (halike : Alike left right) : left.hql = right.hql :=
  halike.hql_eq_and.1

/-! ## Chains -/

/-- The operands of a chain of one connective, from left to right. -/
def chain (connective : Connective) : Predicate → List Predicate
  | .junction id left joined right =>
    if joined = connective then left.chain connective ++ right.chain connective
    else [.junction id left joined right]
  | predicate => [predicate]

/-- Operands joined from the right. -/
def joined (connective : Connective) (first : Predicate) : List Predicate → Predicate
  | [] => first
  | second :: rest => .junction 0 first connective (joined connective second rest)

theorem alike_joined_append (connective : Connective) (first second : Predicate)
    (operands others : List Predicate) :
    Alike (.junction 0 (joined connective first operands) connective
        (joined connective second others))
      (joined connective first (operands ++ second :: others)) := by
  induction operands generalizing first with
  | nil => exact Alike.refl _
  | cons next operands ih =>
    exact (Alike.regroup 0 0 0 0 first connective _ _).trans
      (.junction 0 0 connective (Alike.refl first) (ih next))

theorem joined_congr (connective : Connective) {first other : Predicate}
    {operands others : List Predicate} (hfirst : Alike first other)
    (hoperands : List.Forall₂ Alike operands others) :
    Alike (joined connective first operands) (joined connective other others) := by
  induction hoperands generalizing first other with
  | nil => exact hfirst
  | cons hnext _ ih => exact .junction 0 0 connective hfirst (ih hnext)

/-- A predicate is its chain, joined in one way or another. -/
theorem exists_chain (connective : Connective) (predicate : Predicate) :
    ∃ first operands, predicate.chain connective = first :: operands ∧
      Alike predicate (joined connective first operands) := by
  induction predicate with
  | junction id left between right ihleft ihright =>
    unfold chain
    split
    · next hbetween =>
      subst hbetween
      obtain ⟨first, operands, hleft, hleftAlike⟩ := ihleft
      obtain ⟨second, others, hright, hrightAlike⟩ := ihright
      refine ⟨first, operands ++ second :: others, by rw [hleft, hright]; rfl, ?_⟩
      exact (Alike.junction id 0 between hleftAlike hrightAlike).trans
        (alike_joined_append between first second operands others)
    · exact ⟨_, [], rfl, Alike.refl _⟩
  | _ => exact ⟨_, [], rfl, Alike.refl _⟩

/-- Predicates are alike if their chains are. -/
theorem alike_of_chain (connective : Connective) {left right : Predicate}
    (hchain : List.Forall₂ Alike (left.chain connective) (right.chain connective)) :
    Alike left right := by
  obtain ⟨first, operands, hleft, hleftAlike⟩ := exists_chain connective left
  obtain ⟨second, others, hright, hrightAlike⟩ := exists_chain connective right
  rw [hleft, hright, List.forall₂_cons] at hchain
  exact (hleftAlike.trans (joined_congr connective hchain.1 hchain.2)).trans hrightAlike.symm

end Predicate

end QueryModel
