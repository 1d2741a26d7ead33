import QueryModel.Proofs.Sql.Spelling

/-! # Statements without their data

The data of a statement are its strings, the names of its variables and the positions of its
parameters. Main statement: taking the data away changes neither the text of a statement nor the
text that asks how it would be run. A placeholder stands for each of them in the text.
-/

namespace QueryModel.Sql

/-- A parameter without its data. -/
def Param.redacted : Param → Param
  | .string _ => .string ""
  | .variable _ => .variable ""
  | .positional _ => .positional 0

/-- A piece without the data that it stands for. -/
def Piece.redacted : Piece → Piece
  | .param given => .param given.redacted
  | .verbatim text => .verbatim text
  | .identifier name => .identifier name

/-- A value without its data. -/
def Value.redacted : Value → Value
  | .string _ => .string ""
  | .variable _ => .variable ""
  | .positional _ => .positional 0
  | .integer n => .integer n
  | .float x => .float x
  | .boolean value => .boolean value
  | .null => .null

mutual

/-- An expression without its data. -/
def Expression.redacted : Expression → Expression
  | .and left right => .and left.redacted right.redacted
  | .or left right => .or left.redacted right.redacted
  | .not operand => .not operand.redacted
  | .binary left operator right => .binary left.redacted operator right.redacted
  | .membership left negated items => .membership left.redacted negated (redactedItems items)
  | .nullness operand negated => .nullness operand.redacted negated
  | .between operand lower upper negated =>
    .between operand.redacted lower.redacted upper.redacted negated
  | .column table name => .column table name
  | .value value => .value value.redacted
termination_by structural expression => expression

/-- The items of a list without their data. -/
def redactedItems : List Expression → List Expression
  | [] => []
  | item :: rest => item.redacted :: redactedItems rest
termination_by structural items => items

end

/-- A selection without the data of its restriction. -/
def Select.redacted (select : Select) : Select :=
  { select with restriction := select.restriction.redacted }

theorem redactedItems_eq_map (items : List Expression) :
    redactedItems items = items.map Expression.redacted := by
  induction items with
  | nil => rfl
  | cons item rest ih => rw [redactedItems, ih, List.map_cons]

/-! ## Pieces -/

theorem Value.piece_redacted (value : Value) : value.redacted.piece = value.piece.redacted := by
  cases value with
  | boolean value => cases value <;> rfl
  | _ => rfl

theorem TableReference.map_redacted_pieces (table : TableReference) :
    table.pieces.map Piece.redacted = table.pieces := by
  cases table <;> rfl

theorem From.map_redacted_pieces (source : From) :
    source.pieces.map Piece.redacted = source.pieces := by
  simp [From.pieces, TableReference.map_redacted_pieces, Piece.redacted]

namespace Expression

mutual

/-- The pieces of what is left of an expression are what is left of its pieces. -/
theorem pieces_redacted (expression : Expression) :
    expression.redacted.pieces = expression.pieces.map Piece.redacted := by
  cases expression with
  | and left right =>
    simp [redacted, pieces, left.pieces_redacted, right.pieces_redacted, Piece.redacted]
  | or left right =>
    simp [redacted, pieces, left.pieces_redacted, right.pieces_redacted, Piece.redacted]
  | not operand => simp [redacted, pieces, operand.pieces_redacted, Piece.redacted]
  | binary left operator right =>
    simp [redacted, pieces, left.pieces_redacted, right.pieces_redacted, Piece.redacted]
  | membership left negated items =>
    simp [redacted, pieces, left.pieces_redacted, itemPieces_redacted items, Piece.redacted]
  | nullness operand negated => simp [redacted, pieces, operand.pieces_redacted, Piece.redacted]
  | between operand lower upper negated =>
    simp [redacted, pieces, operand.pieces_redacted, lower.pieces_redacted,
      upper.pieces_redacted, Piece.redacted]
  | column table name => simp [redacted, pieces, table.map_redacted_pieces, Piece.redacted]
  | value value => simp [redacted, pieces, value.piece_redacted]
termination_by structural expression

theorem itemPieces_redacted (items : List Expression) :
    itemPieces (redactedItems items) = (itemPieces items).map Piece.redacted := by
  cases items with
  | nil => rfl
  | cons item rest =>
    have hcomma : (if (redactedItems rest).isEmpty then [] else [Piece.verbatim ", "]) =
        (if rest.isEmpty then [] else [Piece.verbatim ", "]).map Piece.redacted := by
      rw [redactedItems_eq_map, List.isEmpty_map]
      split <;> rfl
    rw [redactedItems, itemPieces, itemPieces, item.pieces_redacted, itemPieces_redacted rest,
      hcomma, List.map_append, List.map_append]
termination_by structural items

end

theorem isAlways_redacted (expression : Expression) :
    expression.redacted.isAlways = expression.isAlways := by
  cases expression with
  | value value => cases value <;> rfl
  | _ => rfl

end Expression

theorem Select.pieces_redacted (select : Select) :
    select.redacted.pieces = select.pieces.map Piece.redacted := by
  have hrestriction : restrictionPieces select.restriction.redacted =
      (restrictionPieces select.restriction).map Piece.redacted := by
    unfold restrictionPieces
    rw [Expression.isAlways_redacted]
    split
    · rfl
    · rw [Expression.pieces_redacted]
      rfl
  obtain ⟨source, restriction⟩ := select
  simp only [redacted, pieces, hrestriction, List.map_append]
  cases source with
  | none => rfl
  | some source => rw [source.map_redacted_pieces]; rfl

/-! ## Text and parameters -/

/-- Pieces are spelled alike without their data. -/
theorem spelled_map_redacted (index : Nat) (pieces : List Piece) :
    spelled index (pieces.map Piece.redacted) = spelled index pieces := by
  induction pieces generalizing index with
  | nil => rfl
  | cons piece rest ih => cases piece <;> simp [Piece.redacted, spelled, ih]

theorem referred_map_redacted (pieces : List Piece) :
    referred (pieces.map Piece.redacted) = (referred pieces).map Param.redacted := by
  induction pieces with
  | nil => rfl
  | cons piece rest ih => cases piece <;> simp [Piece.redacted, ih]

namespace Buffer

theorem text_ofPieces_map_redacted (pieces : List Piece) :
    (ofPieces (pieces.map Piece.redacted)).text = (ofPieces pieces).text := by
  rw [← String.toList_inj, ofPieces, ofPieces, toList_text_appendAll, toList_text_appendAll,
    spelled_map_redacted]

theorem params_ofPieces_map_redacted (pieces : List Piece) :
    (ofPieces (pieces.map Piece.redacted)).params = (ofPieces pieces).params.map Param.redacted := by
  rw [ofPieces, ofPieces, params_appendAll, params_appendAll, referred_map_redacted]
  rfl

end Buffer

namespace Select

theorem text_sql_redacted (select : Select) : select.redacted.sql.text = select.sql.text := by
  rw [sql, pieces_redacted, Buffer.text_ofPieces_map_redacted, sql]

theorem text_explainSql_redacted (select : Select) :
    select.redacted.explainSql.text = select.explainSql.text := by
  have hexplained : explained select.redacted.pieces =
      (explained select.pieces).map Piece.redacted := by
    rw [pieces_redacted]
    rfl
  rw [explainSql, hexplained, Buffer.text_ofPieces_map_redacted, explainSql]

theorem params_sql_redacted (select : Select) :
    select.redacted.sql.params = select.sql.params.map Param.redacted := by
  rw [sql, pieces_redacted, Buffer.params_ofPieces_map_redacted, sql]

end Select

end QueryModel.Sql
