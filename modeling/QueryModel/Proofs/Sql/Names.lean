import QueryModel.Proofs.Sql.Composition

/-! # The names in a statement

Names stand in quotes, and a table or a column is written as several of them with points between.
Main statement: a reader of the text of a selection meets the table that it selects from, the name
given to the table, and then every column, whatever the names are.
-/

namespace QueryModel.Sql

/-! ## Reading -/

/-- Where a reader of names is: outside of quotes, or in a name, behind names that a point follows
and behind characters of the name itself. -/
inductive NameMode where
  | outside
  | inside (before : List String) (read : List Char)

/-- The names in quotes in a text, in order, those with points between them together. In a name, two
quotes in a row are one. -/
def namesFrom : NameMode → List Char → List (List String)
  | _, [] => []
  | .inside before read, '"' :: '"' :: rest => namesFrom (.inside before (read ++ ['"'])) rest
  | .inside before read, '"' :: '.' :: '"' :: rest =>
    namesFrom (.inside (before ++ [String.ofList read]) []) rest
  | .inside before read, '"' :: rest =>
    (before ++ [String.ofList read]) :: namesFrom .outside rest
  | .inside before read, c :: rest => namesFrom (.inside before (read ++ [c])) rest
  | .outside, '"' :: rest => namesFrom (.inside [] []) rest
  | .outside, _ :: rest => namesFrom .outside rest

/-- The names in a text. -/
def namesIn (text : String) : List (List String) := namesFrom .outside text.toList

/-- A point between the quotes of two names joins them, and one in a name does not. -/
example : namesIn "\"a\"\".\"\"b\".\"\" = 1.5 AND \"c\"" = [["a\".\"b", ""], ["c"]] := by decide

section texts

variable {text rest : List Char}

theorem namesFrom_unmarked (htext : IsUnmarked text) :
    namesFrom .outside (text ++ rest) = namesFrom .outside rest := by
  induction text with
  | nil => rfl
  | cons c text ih =>
    obtain ⟨hquote, hdollar⟩ := htext
    rw [List.mem_cons, not_or] at hquote hdollar
    rw [List.cons_append, namesFrom, ih ⟨hquote.2, hdollar.2⟩]
    exact fun hc => hquote.1 hc.symm

theorem namesFrom_doubled (before : List String) (read name : List Char) :
    namesFrom (.inside before read) (Text.doubled '"' name ++ rest) =
      namesFrom (.inside before (read ++ name)) rest := by
  induction name generalizing read with
  | nil => rw [Text.doubled, List.nil_append, List.append_nil]
  | cons c name ih =>
    rw [Text.doubled]
    split
    · next hc =>
      subst hc
      rw [List.cons_append, List.cons_append, namesFrom, ih, List.append_assoc]
      rfl
    · next hc =>
      rw [List.cons_append, namesFrom, ih, List.append_assoc]
      · rfl
      all_goals simp [hc]

/-- A name ends at a quote that is neither doubled nor followed by a point. -/
theorem namesFrom_end (hrest : EndsOperand rest) (before : List String) (read : List Char) :
    namesFrom (.inside before read) ('"' :: rest) =
      (before ++ [String.ofList read]) :: namesFrom .outside rest := by
  rw [namesFrom]
  · rintro tail rfl
    cases hrest '"' rfl
  · rintro tail rfl
    cases hrest '.' rfl

/-- Names with points between them are read together. -/
theorem namesFrom_dotted (hrest : EndsOperand rest) (index : Nat) (name : String)
    (names : List String) :
    namesFrom .outside (spelled index (dotted (name :: names)) ++ rest) =
      (name :: names) :: namesFrom .outside rest := by
  have htext (name : String) : (identifierText name).toList =
      '"' :: (Text.doubled '"' name.toList ++ ['"']) := Text.toList_quoted '"' name
  -- behind the first quote, names that stand before them with points between only add to them
  have hinside : ∃ body, spelled index (dotted (name :: names)) = '"' :: body ∧ ∀ before,
      namesFrom (.inside before []) (body ++ rest) =
        (before ++ name :: names) :: namesFrom .outside rest := by
    induction names generalizing name with
    | nil =>
      refine ⟨Text.doubled '"' name.toList ++ ['"'], ?_, fun before => ?_⟩
      · rw [dotted, spelled, spelled_nil, List.append_nil, htext]
      · rw [List.append_assoc, namesFrom_doubled, List.singleton_append, namesFrom_end hrest,
          List.nil_append, String.ofList_toList]
    | cons second names ih =>
      obtain ⟨body, hbody, hread⟩ := ih second
      refine ⟨Text.doubled '"' name.toList ++ '"' :: '.' :: '"' :: body, ?_, fun before => ?_⟩
      · rw [dotted, spelled, spelled_verbatim, hbody, htext, List.cons_append, List.append_assoc]
        rfl
      · rw [List.append_assoc, namesFrom_doubled, List.cons_append, List.cons_append,
          List.cons_append, namesFrom, List.nil_append, String.ofList_toList, hread,
          List.append_assoc, List.singleton_append]
  obtain ⟨body, hbody, hread⟩ := hinside
  rw [hbody, List.cons_append, namesFrom]
  exact hread []

end texts

/-! ## Pieces -/

/-- `ShowsNames pieces names`: the names in the text of the pieces are these, wherever the pieces
stand. -/
def ShowsNames (pieces : List Piece) (names : List (List String)) : Prop :=
  ∀ ⦃index : Nat⦄ ⦃rest : List Char⦄, EndsOperand rest →
    namesFrom .outside (spelled index pieces ++ rest) = names ++ namesFrom .outside rest

/-- Pieces that can follow a value or a name, wherever they stand. -/
def KeepsEnd (pieces : List Piece) : Prop :=
  ∀ ⦃index : Nat⦄ ⦃rest : List Char⦄, EndsOperand rest → EndsOperand (spelled index pieces ++ rest)

namespace ShowsNames

variable {left right pieces : List Piece} {names others : List (List String)} {text : String}

theorem nil : ShowsNames [] [] := fun _ _ _ => rfl

theorem verbatim (htext : IsUnmarked text.toList) (hpieces : ShowsNames pieces names) :
    ShowsNames (.verbatim text :: pieces) names := by
  intro index rest hrest
  rw [spelled_verbatim, List.append_assoc, namesFrom_unmarked htext, hpieces hrest]

theorem append (hleft : ShowsNames left names) (hends : KeepsEnd right)
    (hright : ShowsNames right others) : ShowsNames (left ++ right) (names ++ others) := by
  intro index rest hrest
  rw [spelled_append, List.append_assoc, hleft (hends hrest), hright hrest, List.append_assoc]

theorem separated (hleft : ShowsNames left names) (htext : Closes text)
    (hright : ShowsNames right others) :
    ShowsNames (left ++ .verbatim text :: right) (names ++ others) :=
  hleft.append (fun _ _ _ => htext.endsOperand _ _ _) (verbatim htext.1 hright)

theorem dotted (name : String) (names : List String) :
    ShowsNames (Sql.dotted (name :: names)) [name :: names] :=
  fun index _ hrest => namesFrom_dotted hrest index name names

end ShowsNames

theorem TableReference.showsNames (table : TableReference) :
    ShowsNames table.pieces [table.names] := by
  cases table with
  | stored schema table => exact .dotted schema [table]
  | aliased name => exact .dotted name []

/-- A value is not written with quotes. -/
theorem Value.showsNames (value : Value) : ShowsNames [value.piece] [] := by
  intro index rest hrest
  obtain ⟨given, rfl⟩ | ⟨text, hvalue⟩ := value.ofParam_or_isWritten
  · rw [piece_ofParam, spelled, spelled_nil, List.append_nil, toList_placeholder, List.cons_append,
      namesFrom]
    · exact namesFrom_unmarked (isUnmarked_digits (index + 1))
    · exact fun hquote => absurd hquote (by decide)
  · rw [hvalue.piece_eq]
    exact ShowsNames.verbatim (String.toList_ofList ▸ isUnmarked_of_isWord hvalue.isWord) .nil hrest

/-- The names that a column is written with. -/
def columnNames (column : TableReference × String) : List String := column.1.names ++ [column.2]

theorem composes_showsNames :
    Composes fun pieces columns => ShowsNames pieces (columns.map columnNames) where
  nil := .nil
  verbatim := .verbatim
  separated hleft htext hright := by
    rw [List.map_append]
    exact hleft.separated htext hright
  value := Value.showsNames
  column table name := by
    rw [← table.dotted_names_append]
    obtain ⟨first, names, hnames⟩ := table.exists_names_eq_cons
    rw [List.map_singleton, columnNames, hnames]
    exact .dotted first (names ++ [name])

/-! ## Selections -/

theorem From.showsNames (source : From) :
    ShowsNames source.pieces [source.table.names, [source.aliasName]] :=
  .verbatim (by decide) <| source.table.showsNames.separated (by decide) <|
    .dotted source.aliasName []

/-- The names that a selection is written with: those of the table it selects from, the name given to
the table, and those of the columns. -/
def Select.names (select : Select) : List (List String) :=
  (match select.source with
    | none => []
    | some source => [source.table.names, [source.aliasName]]) ++
  select.restriction.columns.map columnNames

theorem keepsEnd_restrictionPieces (restriction : Expression) :
    KeepsEnd (restrictionPieces restriction) := by
  unfold restrictionPieces
  split
  · exact fun _ _ hrest => hrest
  · exact fun _ _ _ => Closes.endsOperand (by decide) _ _ _

theorem showsNames_restrictionPieces {restriction : Expression}
    (hoperators : ∀ operator ∈ restriction.operators, IsUnmarked operator.toList) :
    ShowsNames (restrictionPieces restriction) (restriction.columns.map columnNames) := by
  unfold restrictionPieces
  split
  · next halways =>
    rw [Expression.eq_always_of_isAlways halways]
    exact .nil
  · exact .verbatim (by decide) (composes_showsNames.pieces restriction hoperators)

theorem Select.showsNames {select : Select}
    (hoperators : ∀ operator ∈ select.restriction.operators, IsUnmarked operator.toList) :
    ShowsNames select.pieces select.names := by
  obtain ⟨source, restriction⟩ := select
  have hrestriction := showsNames_restrictionPieces hoperators
  have hselect {pieces : List Piece} {names : List (List String)}
      (hpieces : ShowsNames pieces names) :
      ShowsNames (.verbatim "SELECT " :: .verbatim "*" :: .verbatim " " :: pieces) names :=
    .verbatim (by decide) <| .verbatim (by decide) <| .verbatim (by decide) hpieces
  cases source with
  | none => exact hselect hrestriction
  | some source =>
    exact hselect (source.showsNames.append (keepsEnd_restrictionPieces restriction) hrestriction)

/-- The names in the text of a selection are those that the selection is written with. -/
theorem Select.namesIn_sql {select : Select}
    (hoperators : ∀ operator ∈ select.restriction.operators, IsUnmarked operator.toList) :
    namesIn select.sql.text = select.names := by
  have hread := @Select.showsNames select hoperators 0 [] nofun
  rw [List.append_nil] at hread
  rw [namesIn, sql, Buffer.ofPieces, Buffer.toList_text_appendAll]
  exact hread.trans (List.append_nil _)

end QueryModel.Sql
