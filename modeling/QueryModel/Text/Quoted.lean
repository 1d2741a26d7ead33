/-! # Quoting by doubling

A text between two marks in which the mark itself is written twice. Names in SQL and in HQL and the
string literals of HQL are written so, each with a mark of its own.
-/

namespace QueryModel.Text

/-- A text with every mark in it written twice. -/
def doubled (mark : Char) : List Char → List Char
  | [] => []
  | c :: rest => if c = mark then mark :: mark :: doubled mark rest else c :: doubled mark rest

/-- A text between two marks, the marks in it written twice. -/
def quoted (mark : Char) (text : String) : String :=
  String.ofList (mark :: (doubled mark text.toList ++ [mark]))

theorem toList_quoted (mark : Char) (text : String) :
    (quoted mark text).toList = mark :: (doubled mark text.toList ++ [mark]) := by
  simp [quoted]

end QueryModel.Text
