import QueryModel.Binary64.Layout
import QueryModel.Sql.Buffer
import QueryModel.Sql.Expression

/-! # Printing SQL

The pieces of a statement. Every expression with operands stands in parentheses of its own, except
a negation.
-/

namespace QueryModel.Sql

/-- The pieces of a table. -/
def TableReference.pieces : TableReference → List Piece
  | .stored schema table => [.identifier schema, .verbatim ".", .identifier table]
  | .aliased name => [.identifier name]

/-- The piece of a value. -/
def Value.piece : Value → Piece
  | .integer n => .verbatim (String.ofList (Text.numeral n))
  | .float x => .verbatim (String.ofList (x.text .plain))
  | .boolean true => .verbatim "true"
  | .boolean false => .verbatim "false"
  | .string text => .param (.string text)
  | .null => .verbatim "NULL"
  | .variable name => .param (.variable name)
  | .positional position => .param (.positional position)

mutual

/-- The pieces of an expression. -/
def Expression.pieces : Expression → List Piece
  | .and left right =>
    .verbatim "(" :: left.pieces ++ [.verbatim " AND "] ++ right.pieces ++ [.verbatim ")"]
  | .or left right =>
    .verbatim "(" :: left.pieces ++ [.verbatim " OR "] ++ right.pieces ++ [.verbatim ")"]
  | .not operand => .verbatim "NOT " :: operand.pieces
  | .binary left operator right =>
    .verbatim "(" :: left.pieces ++ [.verbatim " ", .verbatim operator, .verbatim " "] ++
      right.pieces ++ [.verbatim ")"]
  | .membership left negated items =>
    .verbatim "(" :: left.pieces ++
      [.verbatim (if negated then " NOT IN " else " IN "), .verbatim "("] ++ itemPieces items ++
      [.verbatim ")", .verbatim ")"]
  | .nullness operand negated =>
    .verbatim "(" :: operand.pieces ++
      [.verbatim (if negated then " IS NOT NULL" else " IS NULL"), .verbatim ")"]
  | .between operand lower upper negated =>
    .verbatim "(" :: operand.pieces ++
      [.verbatim (if negated then " NOT BETWEEN " else " BETWEEN ")] ++ lower.pieces ++
      [.verbatim " AND "] ++ upper.pieces ++ [.verbatim ")"]
  | .column table name => table.pieces ++ [.verbatim ".", .identifier name]
  | .value value => [value.piece]
termination_by structural expression => expression

/-- The pieces of the items of a list, with commas between them. -/
def itemPieces : List Expression → List Piece
  | [] => []
  | item :: rest =>
    item.pieces ++ (if rest.isEmpty then [] else [.verbatim ", "]) ++ itemPieces rest
termination_by structural items => items

end

/-- The pieces of the table a statement selects from. -/
def From.pieces (source : From) : List Piece :=
  .verbatim "FROM " :: source.table.pieces ++ [.verbatim " AS ", .identifier source.aliasName]

/-- The pieces of a restriction; one that restricts nothing is left out. -/
def restrictionPieces (restriction : Expression) : List Piece :=
  if restriction.isAlways then [] else .verbatim " WHERE " :: restriction.pieces

/-- The pieces that ask how a statement would be run. -/
def explained (statement : List Piece) : List Piece := .verbatim "EXPLAIN " :: statement

namespace Select

/-- The pieces of a selection. -/
def pieces (select : Select) : List Piece :=
  [.verbatim "SELECT ", .verbatim "*", .verbatim " "] ++
    (match select.source with
      | none => []
      | some source => source.pieces) ++
    restrictionPieces select.restriction

/-- The text of a selection. -/
def sql (select : Select) : Buffer := .ofPieces select.pieces

/-- The text that asks how a selection would be run. -/
def explainSql (select : Select) : Buffer := .ofPieces (explained select.pieces)

end Select

end QueryModel.Sql
