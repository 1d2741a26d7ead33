import QueryModel.Sql.Printer

/-! # SQL in lines

A selection laid out for reading: the columns, the table and the restriction each stand on a line
of their own, below the word that introduces them.
-/

namespace QueryModel.Sql

/-- The pieces of the table a statement selects from, on a line of its own. -/
def From.laidOut (source : From) : List Piece :=
  .verbatim "\nFROM\n  " :: source.table.pieces ++ [.verbatim " AS ", .identifier source.aliasName]

/-- The pieces of a restriction, on a line of its own. -/
def restrictionLaidOut (restriction : Expression) : List Piece :=
  if restriction.isAlways then [] else .verbatim "\nWHERE\n  " :: restriction.pieces

/-- The pieces of a selection in lines. -/
def Select.laidOut (select : Select) : List Piece :=
  .verbatim "SELECT\n  *" ::
    (match select.source with
      | none => []
      | some source => source.laidOut) ++
    restrictionLaidOut select.restriction

end QueryModel.Sql
