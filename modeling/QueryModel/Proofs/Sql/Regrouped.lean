import QueryModel.Sql.Printer

/-! # Conditions up to grouping

Two conditions are regrouped if they are the same up to the grouping of conjunctions and of
disjunctions. What such conditions refer to is the same, in the same order.
-/

namespace QueryModel.Sql

namespace Expression

/-- `left.Regrouped right`: the same condition, up to the grouping of `AND` and of `OR`. -/
inductive Regrouped : Expression → Expression → Prop
  | refl (expression : Expression) : Regrouped expression expression
  | and {left left' right right' : Expression} (hleft : Regrouped left left')
      (hright : Regrouped right right') : Regrouped (.and left right) (.and left' right')
  | or {left left' right right' : Expression} (hleft : Regrouped left left')
      (hright : Regrouped right right') : Regrouped (.or left right) (.or left' right')
  | not {operand operand' : Expression} (hoperand : Regrouped operand operand') :
      Regrouped (.not operand) (.not operand')
  | regroupAnd (first second third : Expression) :
      Regrouped (.and (.and first second) third) (.and first (.and second third))
  | regroupOr (first second third : Expression) :
      Regrouped (.or (.or first second) third) (.or first (.or second third))
  | symm {left right : Expression} (hregrouped : Regrouped left right) : Regrouped right left
  | trans {first second third : Expression} (hfirst : Regrouped first second)
      (hsecond : Regrouped second third) : Regrouped first third

theorem Regrouped.isAlways_eq {left right : Expression} (hregrouped : Regrouped left right) :
    left.isAlways = right.isAlways := by
  induction hregrouped with
  | symm _ ih => exact ih.symm
  | trans _ _ ihfirst ihsecond => exact ihfirst.trans ihsecond
  | _ => rfl

theorem eq_always_of_isAlways {expression : Expression}
    (halways : expression.isAlways = true) : expression = .always := by
  unfold isAlways at halways
  split at halways
  · rw [halways]
    rfl
  · cases halways

end Expression

/-- The parameter that a piece refers to. -/
def Piece.param? : Piece → Option Param
  | .param referred => some referred
  | _ => none

/-- The parameters that pieces refer to, in order. -/
def referred (pieces : List Piece) : List Param := pieces.filterMap Piece.param?

@[simp]
theorem referred_append (pieces others : List Piece) :
    referred (pieces ++ others) = referred pieces ++ referred others :=
  List.filterMap_append

@[simp]
theorem referred_nil : referred [] = [] := rfl

@[simp]
theorem referred_verbatim (text : String) (pieces : List Piece) :
    referred (.verbatim text :: pieces) = referred pieces := rfl

@[simp]
theorem referred_identifier (name : String) (pieces : List Piece) :
    referred (.identifier name :: pieces) = referred pieces := rfl

@[simp]
theorem referred_param (given : Param) (pieces : List Piece) :
    referred (.param given :: pieces) = given :: referred pieces := rfl

/-- A text lists the parameters that its pieces refer to. -/
theorem Buffer.params_appendAll (buffer : Buffer) (pieces : List Piece) :
    (buffer.appendAll pieces).params = buffer.params ++ referred pieces := by
  induction pieces generalizing buffer with
  | nil => exact (List.append_nil _).symm
  | cons piece pieces ih =>
    change ((buffer.append piece).appendAll pieces).params = _
    rw [ih]
    cases piece with
    | param given => exact List.append_assoc buffer.params [given] _
    | _ => rfl

namespace Expression

theorem referred_and (left right : Expression) :
    referred (Expression.and left right).pieces =
      referred left.pieces ++ referred right.pieces := by
  simp [pieces]

theorem referred_or (left right : Expression) :
    referred (Expression.or left right).pieces = referred left.pieces ++ referred right.pieces := by
  simp [pieces]

theorem Regrouped.referred_eq {left right : Expression} (hregrouped : Regrouped left right) :
    referred left.pieces = referred right.pieces := by
  induction hregrouped with
  | refl => rfl
  | and _ _ ihleft ihright => rw [referred_and, referred_and, ihleft, ihright]
  | or _ _ ihleft ihright => rw [referred_or, referred_or, ihleft, ihright]
  | not _ ih => exact ih
  | regroupAnd first second third => simp only [referred_and, List.append_assoc]
  | regroupOr first second third => simp only [referred_or, List.append_assoc]
  | symm _ ih => exact ih.symm
  | trans _ _ ihfirst ihsecond => exact ihfirst.trans ihsecond

end Expression

theorem TableReference.referred_pieces (table : TableReference) : referred table.pieces = [] := by
  cases table <;> rfl

theorem From.referred_pieces (source : From) : referred source.pieces = [] := by
  change referred (source.table.pieces ++ _) = []
  rw [referred_append, source.table.referred_pieces]
  rfl

/-- A selection refers to the parameters of its restriction, also of one that is left out. -/
theorem Select.referred_pieces (select : Select) :
    referred select.pieces = referred select.restriction.pieces := by
  obtain ⟨source, restriction⟩ := select
  have hrestriction : referred (restrictionPieces restriction) = referred restriction.pieces := by
    unfold restrictionPieces
    split
    · next halways =>
      rw [Expression.eq_always_of_isAlways halways]
      rfl
    · rfl
  rw [pieces, referred_append, referred_append, hrestriction]
  cases source with
  | none => rfl
  | some source => exact congrArg (· ++ referred restriction.pieces) source.referred_pieces

theorem Select.params_sql (select : Select) :
    select.sql.params = referred select.restriction.pieces := by
  rw [sql, Buffer.ofPieces, Buffer.params_appendAll, select.referred_pieces]
  rfl

/-- Selections from one table list the same parameters if their restrictions are regrouped. -/
theorem Select.params_eq {left right : Select} (hsource : left.source = right.source)
    (hrestriction : left.restriction.Regrouped right.restriction) :
    left.sql.params = right.sql.params := by
  have hrestrictions : referred (restrictionPieces left.restriction) =
      referred (restrictionPieces right.restriction) := by
    unfold restrictionPieces
    rw [hrestriction.isAlways_eq]
    split
    · rfl
    · exact hrestriction.referred_eq
  simp only [sql, Buffer.ofPieces, Buffer.params_appendAll, Select.pieces, referred_append, hsource,
    hrestrictions]

end QueryModel.Sql
