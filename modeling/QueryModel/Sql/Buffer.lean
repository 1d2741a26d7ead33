import QueryModel.Text.Numeral
import QueryModel.Text.Quoted

/-! # SQL text

The text of a statement with the parameters it refers to. Strings and parameters do not enter the
text: a numbered placeholder stands for each, and they are listed beside it.
-/

namespace QueryModel.Sql

/-- What a placeholder stands for. -/
inductive Param where
  | string (text : String)
  | variable (name : String)
  | positional (position : Nat)
deriving DecidableEq

/-- A piece of a statement. -/
inductive Piece where
  | verbatim (text : String)
  | identifier (name : String)
  | param (param : Param)
deriving DecidableEq

/-- A name in double quotes. -/
def identifierText (name : String) : String := Text.quoted '"' name

/-- A numbered placeholder. -/
def placeholder (index : Nat) : String := "$" ++ String.ofList (Text.digits index)

/-- A text with the parameters it refers to. -/
structure Buffer where
  text : String
  params : List Param
  /-- The number of the last placeholder. -/
  paramIndex : Nat
deriving DecidableEq

namespace Buffer

/-- The empty text. -/
def empty : Buffer := ⟨"", [], 0⟩

/-- Append a piece. -/
def append (buffer : Buffer) : Piece → Buffer
  | .verbatim text => { buffer with text := buffer.text ++ text }
  | .identifier name => { buffer with text := buffer.text ++ identifierText name }
  | .param param =>
    { text := buffer.text ++ placeholder (buffer.paramIndex + 1)
      params := buffer.params ++ [param]
      paramIndex := buffer.paramIndex + 1 }

/-- Append pieces in order. -/
def appendAll (buffer : Buffer) (pieces : List Piece) : Buffer := pieces.foldl append buffer

/-- The text of pieces. -/
def ofPieces (pieces : List Piece) : Buffer := empty.appendAll pieces

end Buffer

end QueryModel.Sql
