import QueryModel.Proofs.Query.Unambiguous

/-! # Texts of statements

The text of a statement shows its root and, if it has one, its predicate.
-/

namespace QueryModel

namespace Statement

/-- The text of the restriction of a statement. -/
def restrictionText : Option Predicate → List Char
  | none => []
  | some predicate => " where ".toList ++ predicate.hql.toList

theorem toList_hql (statement : Statement) :
    statement.hql.toList = "select ".toList ++ ((Hql.identifier statement.root.aliasName).toList ++
      (" from ".toList ++ ((Hql.identifier statement.root.entity).toList ++ (" ".toList ++
        ((Hql.identifier statement.root.aliasName).toList ++
          restrictionText statement.predicate))))) := by
  unfold hql restrictionText
  dsimp only
  cases statement.predicate with
  | none => simp only [String.toList_append, List.append_assoc, List.append_nil]
  | some predicate => simp only [String.toList_append, List.append_assoc]

theorem endsName_append (text : String) {tail : List Char} (htext : text.toList = ' ' :: tail)
    (rest : List Char) : Hql.EndsName (text.toList ++ rest) := by
  rw [htext]
  exact (Hql.ends_of_head (by decide)).endsName

theorem alike_of_restrictionText_eq {left right : Option Predicate}
    (hsame : restrictionText left = restrictionText right) :
    Option.Rel Predicate.Alike left right := by
  cases left with
  | none =>
    cases right with
    | none => exact .none
    | some right => cases hsame
  | some left =>
    cases right with
    | none => cases hsame
    | some right =>
      have htext : left.hql.toList ++ [] = right.hql.toList ++ [] := by
        rw [List.append_nil, List.append_nil, List.append_cancel_left hsame]
      exact .some (Predicate.tells_hql _ trivial trivial Predicate.endsPredicate_nil
        Predicate.endsPredicate_nil (Nat.le_refl _) htext).1

/-- Statements with one text have one root and alike predicates. -/
theorem root_eq_and_alike_of_hql_eq {left right : Statement} (hsame : left.hql = right.hql) :
    left.root = right.root ∧ Option.Rel Predicate.Alike left.predicate right.predicate := by
  have hfrom := endsName_append " from " rfl
  have hblank := endsName_append " " rfl
  have htext := congrArg String.toList hsame
  rw [toList_hql, toList_hql] at htext
  obtain ⟨halias, htext⟩ := Hql.identifier_append_inj (hfrom _) (hfrom _)
    (List.append_cancel_left htext)
  obtain ⟨hentity, hrest⟩ := Hql.identifier_append_inj (hblank _) (hblank _)
    (List.append_cancel_left htext)
  have hrestriction := List.append_cancel_left hrest
  rw [halias] at hrestriction
  refine ⟨?_, alike_of_restrictionText_eq (List.append_cancel_left hrestriction)⟩
  obtain ⟨⟨entity, aliasName⟩, predicate⟩ := left
  obtain ⟨⟨entity', aliasName'⟩, predicate'⟩ := right
  cases halias
  cases hentity
  rfl

end Statement

end QueryModel
