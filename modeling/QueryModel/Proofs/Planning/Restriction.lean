import QueryModel.Planning.Restriction
import QueryModel.Proofs.Outcome

/-! # What a restriction can be

The expression of a predicate, described case by case: which expression each node becomes, and what
was checked on the way.
-/

namespace QueryModel

namespace Catalog

variable {catalog : Catalog} {entityName : String}

theorem entity_eq_ok_iff {found : Entity} :
    catalog.entity entityName = .ok found ↔ catalog.entities.get? entityName = some found := by
  rw [entity]
  cases catalog.entities.get? entityName <;> simp

theorem attributeOf_eq_ok_iff {attributeName : String} {known : Attribute} :
    catalog.attributeOf entityName attributeName = .ok known ↔
      catalog.attribute? entityName attributeName = some known := by
  rw [attributeOf, Except.bind_eq_ok, attribute?, Option.bind_eq_some_iff]
  refine exists_congr fun found => and_congr entity_eq_ok_iff ?_
  cases found.attributes.get? attributeName <;> simp

end Catalog

namespace TableContext

/-- `context.Translates predicate expression`: the expression is what becomes of the predicate. -/
inductive Translates (context : TableContext) : Predicate → Sql.Expression → Prop
  | comparison (id : NodeId) {left right : Scalar} {leftValue rightValue : Sql.Expression}
      (operator : Operator) (hleft : context.scalar left = .ok leftValue)
      (hright : context.scalar right = .ok rightValue) :
      Translates context (.comparison id left operator (.scalar right))
        (.binary leftValue operator.sql rightValue)
  | membership (id : NodeId) {left : Scalar} {right : ValueList} {leftValue : Sql.Expression}
      {items : List Sql.Expression} (negated : Bool) (hleft : context.scalar left = .ok leftValue)
      (hright : right.elements.mapM context.scalar = .ok items) :
      Translates context
        (.comparison id left (if negated then .notIn else .isIn) (.list right))
        (.membership leftValue negated items)
  | and (id : NodeId) {left right : Predicate} {leftTruth rightTruth : Sql.Expression}
      (hleft : Translates context left leftTruth) (hright : Translates context right rightTruth) :
      Translates context (.junction id left .and right) (.and leftTruth rightTruth)
  | or (id : NodeId) {left right : Predicate} {leftTruth rightTruth : Sql.Expression}
      (hleft : Translates context left leftTruth) (hright : Translates context right rightTruth) :
      Translates context (.junction id left .or right) (.or leftTruth rightTruth)
  | negation (id : NodeId) {inner : Predicate} {truth : Sql.Expression}
      (hinner : Translates context inner truth) :
      Translates context (.negation id inner) (.not truth)
  | decidedNullness (id : NodeId) {operand : Scalar} {value : Sql.Expression} (negated : Bool)
      (hoperand : context.scalar operand = .ok value)
      (hnever : context.isNeverNull operand = .ok true) :
      Translates context (.nullness id operand negated) (if negated then .always else .never)
  | nullness (id : NodeId) {operand : Scalar} {value : Sql.Expression} (negated : Bool)
      (hoperand : context.scalar operand = .ok value)
      (hnever : context.isNeverNull operand = .ok false) :
      Translates context (.nullness id operand negated) (.nullness value negated)
  | between (id : NodeId) {operand lower upper : Scalar}
      {value lowerValue upperValue : Sql.Expression} (negated : Bool)
      (hoperand : context.scalar operand = .ok value)
      (hlower : context.scalar lower = .ok lowerValue)
      (hupper : context.scalar upper = .ok upperValue) :
      Translates context (.between id operand lower upper negated)
        (.between value lowerValue upperValue negated)

/-- What becomes of a predicate that may be missing. -/
inductive TranslatesOptional (context : TableContext) :
    Option Predicate → Sql.Expression → Prop
  | none : TranslatesOptional context none .always
  | some {predicate : Predicate} {expression : Sql.Expression}
      (htranslates : context.Translates predicate expression) :
      TranslatesOptional context (some predicate) expression

variable {context : TableContext}

theorem column_eq_ok {root : Root} {attributeName : String} {expression : Sql.Expression}
    (hexpression : context.column root attributeName = .ok expression) :
    root = context.root ∧ ∃ known,
      context.catalog.attributeOf context.root.entity attributeName = .ok known ∧
        expression = .column (.aliased context.tableAlias) known.columnName := by
  unfold column at hexpression
  split at hexpression
  · next hroot =>
    subst hroot
    obtain ⟨known, hknown, ⟨⟩⟩ := Except.bind_eq_ok.mp hexpression
    exact ⟨rfl, known, hknown, rfl⟩
  · cases hexpression

theorem translates_comparison (id : NodeId) {left : Scalar} {operator : Operator}
    {right : Expression} {leftValue truth : Sql.Expression}
    (hleft : context.scalar left = .ok leftValue)
    (htruth : context.comparison leftValue operator right = .ok truth) :
    context.Translates (.comparison id left operator right) truth := by
  cases right with
  | scalar right =>
    obtain ⟨rightValue, hright, ⟨⟩⟩ := Except.bind_eq_ok.mp htruth
    exact .comparison id operator hleft hright
  | list right =>
    obtain ⟨items, hitems, htruth⟩ := Except.bind_eq_ok.mp htruth
    cases operator with
    | isIn => cases htruth; exact .membership id false hleft hitems
    | notIn => cases htruth; exact .membership id true hleft hitems
    | _ => cases htruth

theorem translates_nullness (id : NodeId) {operand : Scalar} {negated : Bool}
    {truth : Sql.Expression} (htruth : context.nullness operand negated = .ok truth) :
    context.Translates (.nullness id operand negated) truth := by
  obtain ⟨value, hoperand, htruth⟩ := Except.bind_eq_ok.mp htruth
  obtain ⟨never, hnever, htruth⟩ := Except.bind_eq_ok.mp htruth
  cases never with
  | true => cases htruth; exact .decidedNullness id negated hoperand hnever
  | false => cases htruth; exact .nullness id negated hoperand hnever

/-- Where a predicate is translated, it is translated in one of the ways described. -/
theorem translates_of_predicate_eq_ok {predicate : Predicate} {truth : Sql.Expression}
    (htruth : context.predicate predicate = .ok truth) : context.Translates predicate truth := by
  induction predicate generalizing truth with
  | comparison id left operator right =>
    unfold TableContext.predicate at htruth
    split at htruth
    · obtain ⟨leftValue, hleft, htruth⟩ := Except.bind_eq_ok.mp htruth
      exact translates_comparison id hleft htruth
    · cases htruth
  | junction id left connective right ihleft ihright =>
    obtain ⟨leftTruth, hleft, htruth⟩ := Except.bind_eq_ok.mp htruth
    obtain ⟨rightTruth, hright, htruth⟩ := Except.bind_eq_ok.mp htruth
    cases connective with
    | and => cases htruth; exact .and id (ihleft hleft) (ihright hright)
    | or => cases htruth; exact .or id (ihleft hleft) (ihright hright)
  | negation id inner ih =>
    obtain ⟨innerTruth, hinner, htruth⟩ := Except.bind_eq_ok.mp htruth
    cases htruth
    exact .negation id (ih hinner)
  | nullness id operand negated => exact translates_nullness id htruth
  | between id operand lower upper negated =>
    obtain ⟨value, hoperand, htruth⟩ := Except.bind_eq_ok.mp htruth
    obtain ⟨lowerValue, hlower, htruth⟩ := Except.bind_eq_ok.mp htruth
    obtain ⟨upperValue, hupper, htruth⟩ := Except.bind_eq_ok.mp htruth
    cases htruth
    exact .between id negated hoperand hlower hupper

end TableContext

end QueryModel
