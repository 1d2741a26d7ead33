import QueryModel.Proofs.Sql.Literals

/-! # How expressions are put together

The pieces of an expression are those of its values and columns, with text between them and around
them. Main statement: what holds of the pieces of every value and of every column, and is kept when
pieces are put together with such text, holds of the pieces of every expression.
-/

namespace QueryModel.Sql

/-! ## Text between pieces -/

/-- A text in which neither a name nor a placeholder begins. -/
def IsUnmarked (text : List Char) : Prop := '"' ∉ text ∧ '$' ∉ text

instance (text : List Char) : Decidable (IsUnmarked text) := inferInstanceAs (Decidable (_ ∧ _))

theorem isUnmarked_of_isWord {word : List Char} (hword : isWord word) : IsUnmarked word := by
  constructor <;> intro hmark <;> exact absurd (forall_isPlain_of_isWord hword _ hmark) (by decide)

theorem isUnmarked_digits (index : Nat) : IsUnmarked (Text.digits index) := by
  constructor <;> intro hmark <;> exact absurd (Text.isDigit_of_mem_digits hmark) (by decide)

theorem toList_placeholder (index : Nat) :
    (placeholder index).toList = '$' :: Text.digits index := by
  simp [placeholder]

/-- A text that neither goes on with a value nor with a name. -/
def EndsOperand (text : List Char) : Prop := ∀ c ∈ text.head?, continuesValue c = false

/-- A text that can stand behind an operand. -/
def Closes (text : String) : Prop :=
  IsUnmarked text.toList ∧ text.toList.head?.any (!continuesValue ·)

instance (text : String) : Decidable (Closes text) := inferInstanceAs (Decidable (_ ∧ _))

theorem Closes.exists_head {text : String} (htext : Closes text) :
    ∃ first rest, text.toList = first :: rest ∧ continuesValue first = false := by
  obtain ⟨-, hhead⟩ := htext
  cases hlist : text.toList with
  | nil => simp [hlist] at hhead
  | cons first rest => exact ⟨first, rest, rfl, by simpa [hlist] using hhead⟩

/-- Whatever stands behind a text that closes an operand does not go on with the operand. -/
theorem Closes.endsOperand {text : String} (htext : Closes text) (index : Nat)
    (pieces : List Piece) (rest : List Char) :
    EndsOperand (spelled index (.verbatim text :: pieces) ++ rest) := by
  obtain ⟨first, tail, hlist, hfirst⟩ := htext.exists_head
  rw [spelled_verbatim, hlist]
  rintro _ ⟨⟩
  exact hfirst

/-! ## Expressions -/

namespace Expression

mutual

/-- The texts of the operators between two operands. -/
def operators : Expression → List String
  | .and left right => left.operators ++ right.operators
  | .or left right => left.operators ++ right.operators
  | .not operand => operand.operators
  | .binary left operator right => operator :: (left.operators ++ right.operators)
  | .membership left _ items => left.operators ++ itemOperators items
  | .nullness operand _ => operand.operators
  | .between operand lower upper _ => operand.operators ++ (lower.operators ++ upper.operators)
  | .column _ _ => []
  | .value _ => []
termination_by structural expression => expression

/-- The texts of the operators in the items of a list. -/
def itemOperators : List Expression → List String
  | [] => []
  | item :: rest => item.operators ++ itemOperators rest
termination_by structural items => items

end

mutual

/-- The columns of an expression with their tables, from left to right. -/
def columns : Expression → List (TableReference × String)
  | .and left right => left.columns ++ right.columns
  | .or left right => left.columns ++ right.columns
  | .not operand => operand.columns
  | .binary left _ right => left.columns ++ right.columns
  | .membership left _ items => left.columns ++ itemColumns items
  | .nullness operand _ => operand.columns
  | .between operand lower upper _ => operand.columns ++ (lower.columns ++ upper.columns)
  | .column table name => [(table, name)]
  | .value _ => []
termination_by structural expression => expression

/-- The columns of the items of a list with their tables, from left to right. -/
def itemColumns : List Expression → List (TableReference × String)
  | [] => []
  | item :: rest => item.columns ++ itemColumns rest
termination_by structural items => items

end

theorem itemOperators_eq_flatMap (items : List Expression) :
    itemOperators items = items.flatMap operators := by
  induction items with
  | nil => rfl
  | cons item rest ih => rw [itemOperators, ih, List.flatMap_cons]

theorem itemColumns_eq_flatMap (items : List Expression) :
    itemColumns items = items.flatMap columns := by
  induction items with
  | nil => rfl
  | cons item rest ih => rw [itemColumns, ih, List.flatMap_cons]

end Expression

/-- `Composes holds`: what holds of pieces, with the columns in them, holds of values and columns and
is kept when pieces are put together. -/
structure Composes (holds : List Piece → List (TableReference × String) → Prop) : Prop where
  nil : holds [] []
  verbatim {text : String} {pieces : List Piece} {columns : List (TableReference × String)}
    (htext : IsUnmarked text.toList) (hpieces : holds pieces columns) :
    holds (.verbatim text :: pieces) columns
  separated {left right : List Piece} {columns others : List (TableReference × String)}
    {text : String} (hleft : holds left columns) (htext : Closes text)
    (hright : holds right others) : holds (left ++ .verbatim text :: right) (columns ++ others)
  value (value : Value) : holds [value.piece] []
  column (table : TableReference) (name : String) :
    holds (table.pieces ++ [.verbatim ".", .identifier name]) [(table, name)]

namespace Composes

variable {holds : List Piece → List (TableReference × String) → Prop}

theorem closed (hholds : Composes holds) {left right : List Piece}
    {columns : List (TableReference × String)} {text : String} (hleft : holds left columns)
    (htext : Closes text) (hright : holds right []) :
    holds (left ++ .verbatim text :: right) columns := by
  simpa using hholds.separated hleft htext hright

mutual

/-- What composes holds of every expression, as long as its operators do not look like names or
placeholders. -/
theorem pieces (hholds : Composes holds) (expression : Expression)
    (hoperators : ∀ operator ∈ expression.operators, IsUnmarked operator.toList) :
    holds expression.pieces expression.columns := by
  have hopen : IsUnmarked "(".toList := by decide
  have hclose : Closes ")" := by decide
  cases expression with
  | and left right =>
    obtain ⟨hleft, hright⟩ := List.forall_mem_append.mp hoperators
    simp only [Expression.pieces, List.append_assoc, List.cons_append, List.nil_append]
    exact hholds.verbatim hopen <| hholds.separated (hholds.pieces left hleft) (by decide) <|
      hholds.closed (hholds.pieces right hright) hclose hholds.nil
  | or left right =>
    obtain ⟨hleft, hright⟩ := List.forall_mem_append.mp hoperators
    simp only [Expression.pieces, List.append_assoc, List.cons_append, List.nil_append]
    exact hholds.verbatim hopen <| hholds.separated (hholds.pieces left hleft) (by decide) <|
      hholds.closed (hholds.pieces right hright) hclose hholds.nil
  | not operand => exact hholds.verbatim (by decide) (hholds.pieces operand hoperators)
  | binary left operator right =>
    obtain ⟨hoperator, hoperands⟩ := List.forall_mem_cons.mp hoperators
    obtain ⟨hleft, hright⟩ := List.forall_mem_append.mp hoperands
    simp only [Expression.pieces, List.append_assoc, List.cons_append, List.nil_append]
    exact hholds.verbatim hopen <| hholds.separated (hholds.pieces left hleft) (by decide) <|
      hholds.verbatim hoperator <| hholds.verbatim (by decide) <|
      hholds.closed (hholds.pieces right hright) hclose hholds.nil
  | membership left negated items =>
    obtain ⟨hleft, hitems⟩ := List.forall_mem_append.mp hoperators
    have hin : Closes (if negated then " NOT IN " else " IN ") := by cases negated <;> decide
    simp only [Expression.pieces, List.append_assoc, List.cons_append, List.nil_append]
    exact hholds.verbatim hopen <| hholds.separated (hholds.pieces left hleft) hin <|
      hholds.verbatim hopen <| hholds.closed (hholds.itemPieces items hitems) hclose <|
      hholds.verbatim (by decide) hholds.nil
  | nullness operand negated =>
    have hnull : Closes (if negated then " IS NOT NULL" else " IS NULL") := by
      cases negated <;> decide
    simp only [Expression.pieces, List.cons_append]
    exact hholds.verbatim hopen <| hholds.closed (hholds.pieces operand hoperators) hnull <|
      hholds.verbatim (by decide) hholds.nil
  | between operand lower upper negated =>
    obtain ⟨hoperand, hbounds⟩ := List.forall_mem_append.mp hoperators
    obtain ⟨hlower, hupper⟩ := List.forall_mem_append.mp hbounds
    have hbetween : Closes (if negated then " NOT BETWEEN " else " BETWEEN ") := by
      cases negated <;> decide
    simp only [Expression.pieces, List.append_assoc, List.cons_append, List.nil_append]
    exact hholds.verbatim hopen <| hholds.separated (hholds.pieces operand hoperand) hbetween <|
      hholds.separated (hholds.pieces lower hlower) (by decide) <|
      hholds.closed (hholds.pieces upper hupper) hclose hholds.nil
  | column table name => exact hholds.column table name
  | value shown => exact hholds.value shown
termination_by structural expression

theorem itemPieces (hholds : Composes holds) (items : List Expression)
    (hoperators : ∀ operator ∈ Expression.itemOperators items, IsUnmarked operator.toList) :
    holds (Sql.itemPieces items) (Expression.itemColumns items) := by
  cases items with
  | nil => exact hholds.nil
  | cons item rest =>
    obtain ⟨hitem, hrest⟩ := List.forall_mem_append.mp hoperators
    have hfirst := hholds.pieces item hitem
    have hbehind := hholds.itemPieces rest hrest
    cases rest with
    | nil => simpa [Sql.itemPieces, Expression.itemColumns] using hfirst
    | cons second rest =>
      simpa [Sql.itemPieces, Expression.itemColumns] using
        hholds.separated hfirst (by decide) hbehind
termination_by structural items

end

end Composes

end QueryModel.Sql
