import QueryModel.Proofs.Sql.Composition

/-! # Placeholders

The strings and parameters of a statement are listed beside its text, and numbered placeholders stand
for them there. Main statement: whatever the names in a selection are, a reader of its text who
passes over what stands in quotes meets the placeholders 1, 2, 3 and so on, each of them once, as
many as there are parameters in the list, and the list has them in the order of the selection.
-/

namespace QueryModel.Sql

/-! ## Reading -/

/-- The numerals behind the dollar signs of a text, in order, without those between quotes; the text
begins between quotes or not. Between quotes, two of them in a row do not end what is quoted. -/
def placeholderNumerals : Bool → List Char → List (List Char)
  | _, [] => []
  | true, '"' :: '"' :: rest => placeholderNumerals true rest
  | true, '"' :: rest => placeholderNumerals false rest
  | true, _ :: rest => placeholderNumerals true rest
  | false, '"' :: rest => placeholderNumerals true rest
  | false, '$' :: rest => rest.takeWhile Char.isDigit :: placeholderNumerals false rest
  | false, _ :: rest => placeholderNumerals false rest

/-- The numerals of the placeholders in a text. -/
def placeholdersIn (text : String) : List (List Char) := placeholderNumerals false text.toList

/-- A dollar sign in a name is no placeholder, also behind a quote that is part of the name. -/
example : placeholdersIn "(\"$1\"\"$2\" = $3)" = [['3']] := by decide

/-- A text that neither goes on with a name in quotes nor with a numeral. -/
def EndsToken (text : List Char) : Prop := ∀ c ∈ text.head?, c ≠ '"' ∧ c.isDigit = false

instance (text : List Char) : Decidable (EndsToken text) :=
  decidable_of_iff (text.head?.all fun c => c != '"' && !c.isDigit)
    (by simp [EndsToken, Option.all_eq_true])

theorem endsToken_nil : EndsToken [] := by decide

theorem EndsToken.append {text : List Char} (htext : EndsToken text) (hne : text ≠ [])
    (rest : List Char) : EndsToken (text ++ rest) := by
  obtain ⟨first, tail, rfl⟩ := List.exists_cons_of_ne_nil hne
  exact htext

section texts

variable {text rest : List Char}

theorem placeholderNumerals_unmarked (htext : IsUnmarked text) :
    placeholderNumerals false (text ++ rest) = placeholderNumerals false rest := by
  induction text with
  | nil => rfl
  | cons c text ih =>
    obtain ⟨hquote, hdollar⟩ := htext
    rw [List.mem_cons, not_or] at hquote hdollar
    rw [List.cons_append, placeholderNumerals, ih ⟨hquote.2, hdollar.2⟩]
    · exact fun hc => hquote.1 hc.symm
    · exact fun hc => hdollar.1 hc.symm

theorem placeholderNumerals_doubled (hrest : EndsToken rest) (name : List Char) :
    placeholderNumerals true (Text.doubled '"' name ++ '"' :: rest) =
      placeholderNumerals false rest := by
  induction name with
  | nil =>
    rw [Text.doubled, List.nil_append, placeholderNumerals]
    rintro tail rfl
    exact (hrest '"' rfl).1 rfl
  | cons c name ih =>
    rw [Text.doubled]
    split
    · exact ih
    · next hc =>
      rw [List.cons_append, placeholderNumerals, ih]
      all_goals simp [hc]

/-- No name has a placeholder in it, whatever the name is. -/
theorem placeholderNumerals_identifier (hrest : EndsToken rest) (name : String) :
    placeholderNumerals false ((identifierText name).toList ++ rest) =
      placeholderNumerals false rest := by
  rw [identifierText, Text.toList_quoted, List.cons_append, List.append_assoc, List.singleton_append,
    placeholderNumerals, placeholderNumerals_doubled hrest]

theorem placeholderNumerals_placeholder (hrest : EndsToken rest) (index : Nat) :
    placeholderNumerals false ((placeholder index).toList ++ rest) =
      Text.digits index :: placeholderNumerals false rest := by
  have hdigits : (Text.digits index ++ rest).takeWhile Char.isDigit = Text.digits index :=
    Text.takeWhile_run (fun c hc => Text.isDigit_of_mem_digits hc) fun c hc => (hrest c hc).2
  rw [toList_placeholder, List.cons_append, placeholderNumerals, hdigits,
    placeholderNumerals_unmarked (isUnmarked_digits index)]

end texts

/-! ## Pieces -/

/-- The numerals that follow a number. -/
def numeralsAfter (index count : Nat) : List (List Char) :=
  (List.range' (index + 1) count).map Text.digits

theorem numeralsAfter_append (index count more : Nat) :
    numeralsAfter index count ++ numeralsAfter (index + count) more =
      numeralsAfter index (count + more) := by
  have hstart : index + count + 1 = index + 1 + count := Nat.add_right_comm index count 1
  rw [numeralsAfter, numeralsAfter, numeralsAfter, ← List.map_append, hstart,
    List.range'_append_1]

/-- `ShowsPlaceholders pieces`: the placeholders in the text of the pieces are those that stand for
the parameters of the pieces, wherever the pieces stand. -/
def ShowsPlaceholders (pieces : List Piece) : Prop :=
  ∀ ⦃index : Nat⦄ ⦃rest : List Char⦄, EndsToken rest →
    placeholderNumerals false (spelled index pieces ++ rest) =
      numeralsAfter index (referred pieces).length ++ placeholderNumerals false rest

/-- Pieces that can follow a name or a placeholder. -/
def FollowsToken (pieces : List Piece) : Prop :=
  ∀ ⦃index : Nat⦄ ⦃rest : List Char⦄, EndsToken rest → EndsToken (spelled index pieces ++ rest)

/-- A text that can stand between two names or placeholders. -/
def Separates (text : String) : Prop :=
  text ≠ "" ∧ IsUnmarked text.toList ∧ EndsToken text.toList

instance (text : String) : Decidable (Separates text) := inferInstanceAs (Decidable (_ ∧ _))

theorem Closes.separates {text : String} (htext : Closes text) : Separates text := by
  obtain ⟨first, rest, hlist, hfirst⟩ := htext.exists_head
  refine ⟨?_, htext.1, ?_⟩
  · rintro rfl
    cases hlist
  · rw [hlist]
    rintro _ ⟨⟩
    simp only [continuesValue, Bool.and_eq_false_iff, bne_eq_false_iff_eq] at hfirst
    obtain (rfl | rfl) | rfl := hfirst <;> decide

theorem Separates.followsToken {text : String} (htext : Separates text) (pieces : List Piece) :
    FollowsToken (.verbatim text :: pieces) := by
  intro index rest hrest
  rw [spelled_verbatim, List.append_assoc]
  exact htext.2.2.append (by simpa using htext.1) _

namespace ShowsPlaceholders

variable {left right : List Piece} {text : String}

theorem nil : ShowsPlaceholders [] := fun _ _ _ => rfl

theorem append (hleft : ShowsPlaceholders left) (hfollows : FollowsToken right)
    (hright : ShowsPlaceholders right) : ShowsPlaceholders (left ++ right) := by
  intro index rest hrest
  rw [spelled_append, List.append_assoc, hleft (hfollows hrest), hright hrest, ← List.append_assoc,
    numeralsAfter_append, referred_append, List.length_append]

theorem verbatim (htext : IsUnmarked text.toList) (hright : ShowsPlaceholders right) :
    ShowsPlaceholders (.verbatim text :: right) := by
  intro index rest hrest
  rw [spelled_verbatim, List.append_assoc, placeholderNumerals_unmarked htext, hright hrest,
    referred_verbatim]

theorem separated (hleft : ShowsPlaceholders left) (htext : Separates text)
    (hright : ShowsPlaceholders right) : ShowsPlaceholders (left ++ .verbatim text :: right) :=
  hleft.append (htext.followsToken right) (.verbatim htext.2.1 hright)

theorem identifier (name : String) : ShowsPlaceholders [.identifier name] := by
  intro index rest hrest
  rw [spelled, spelled_nil, List.append_nil, placeholderNumerals_identifier hrest]
  rfl

theorem param (given : Param) : ShowsPlaceholders [.param given] := by
  intro index rest hrest
  rw [spelled, spelled_nil, List.append_nil, placeholderNumerals_placeholder hrest]
  rfl

end ShowsPlaceholders

/-! ## Selections -/

theorem Value.showsPlaceholders (value : Value) : ShowsPlaceholders [value.piece] := by
  obtain ⟨given, rfl⟩ | ⟨text, hvalue⟩ := value.ofParam_or_isWritten
  · rw [piece_ofParam]
    exact .param given
  · rw [hvalue.piece_eq]
    refine .verbatim ?_ .nil
    rw [String.toList_ofList]
    exact isUnmarked_of_isWord hvalue.isWord

theorem TableReference.showsPlaceholders (table : TableReference) :
    ShowsPlaceholders table.pieces := by
  cases table with
  | stored schema table =>
    exact (ShowsPlaceholders.identifier schema).separated (by decide) (.identifier table)
  | aliased name => exact .identifier name

theorem composes_showsPlaceholders : Composes fun pieces _ => ShowsPlaceholders pieces where
  nil := .nil
  verbatim := .verbatim
  separated hleft htext hright := hleft.separated htext.separates hright
  value := Value.showsPlaceholders
  column table name := table.showsPlaceholders.separated (by decide) (.identifier name)

/-- What the placeholder for a value stands for, if there is one. -/
def Value.param? : Value → Option Param
  | .string text => some (.string text)
  | .variable name => some (.variable name)
  | .positional position => some (.positional position)
  | .integer _ | .float _ | .boolean _ | .null => none

theorem Value.referred_piece (value : Value) : referred [value.piece] = value.param?.toList := by
  cases value with
  | boolean value => cases value <;> rfl
  | _ => rfl

namespace Expression

mutual

/-- The strings and parameters of an expression, from left to right. -/
def params : Expression → List Param
  | .and left right => left.params ++ right.params
  | .or left right => left.params ++ right.params
  | .not operand => operand.params
  | .binary left _ right => left.params ++ right.params
  | .membership left _ items => left.params ++ itemParams items
  | .nullness operand _ => operand.params
  | .between operand lower upper _ => operand.params ++ (lower.params ++ upper.params)
  | .column _ _ => []
  | .value shown => shown.param?.toList
termination_by structural expression => expression

/-- The strings and parameters of the items of a list, from left to right. -/
def itemParams : List Expression → List Param
  | [] => []
  | item :: rest => item.params ++ itemParams rest
termination_by structural items => items

end

mutual

/-- The pieces of an expression refer to its strings and parameters. -/
theorem referred_pieces (expression : Expression) :
    referred expression.pieces = expression.params := by
  cases expression with
  | and left right => simp [pieces, params, left.referred_pieces, right.referred_pieces]
  | or left right => simp [pieces, params, left.referred_pieces, right.referred_pieces]
  | not operand => exact operand.referred_pieces
  | binary left operator right =>
    simp [pieces, params, left.referred_pieces, right.referred_pieces]
  | membership left negated items =>
    simp [pieces, params, left.referred_pieces, referred_itemPieces items]
  | nullness operand negated => simp [pieces, params, operand.referred_pieces]
  | between operand lower upper negated =>
    simp [pieces, params, operand.referred_pieces, lower.referred_pieces, upper.referred_pieces]
  | column table name => simp [pieces, params, table.referred_pieces]
  | value shown => exact shown.referred_piece
termination_by structural expression

theorem referred_itemPieces (items : List Expression) :
    referred (itemPieces items) = itemParams items := by
  cases items with
  | nil => rfl
  | cons item rest =>
    have hcomma : referred (if rest.isEmpty then [] else [.verbatim ", "]) = [] := by
      split <;> rfl
    rw [itemPieces, itemParams, referred_append, referred_append, hcomma, item.referred_pieces,
      referred_itemPieces rest, List.append_nil]
termination_by structural items

end

/-- The placeholders in the text of an expression are those of its strings and parameters. -/
theorem showsPlaceholders (expression : Expression)
    (hoperators : ∀ operator ∈ expression.operators, IsUnmarked operator.toList) :
    ShowsPlaceholders expression.pieces :=
  composes_showsPlaceholders.pieces expression hoperators

end Expression

theorem From.showsPlaceholders (source : From) : ShowsPlaceholders source.pieces :=
  .verbatim (by decide) <| source.table.showsPlaceholders.separated (by decide) <|
    .identifier source.aliasName

theorem followsToken_restrictionPieces (restriction : Expression) :
    FollowsToken (restrictionPieces restriction) := by
  unfold restrictionPieces
  split
  · exact fun _ _ hrest => hrest
  · exact Separates.followsToken (by decide) _

theorem showsPlaceholders_restrictionPieces {restriction : Expression}
    (hoperators : ∀ operator ∈ restriction.operators, IsUnmarked operator.toList) :
    ShowsPlaceholders (restrictionPieces restriction) := by
  unfold restrictionPieces
  split
  · exact .nil
  · exact .verbatim (by decide) (restriction.showsPlaceholders hoperators)

theorem Select.showsPlaceholders {select : Select}
    (hoperators : ∀ operator ∈ select.restriction.operators, IsUnmarked operator.toList) :
    ShowsPlaceholders select.pieces := by
  obtain ⟨source, restriction⟩ := select
  have hrestriction := showsPlaceholders_restrictionPieces hoperators
  have hselect {pieces : List Piece} (hpieces : ShowsPlaceholders pieces) :
      ShowsPlaceholders (.verbatim "SELECT " :: .verbatim "*" :: .verbatim " " :: pieces) :=
    .verbatim (by decide) <| .verbatim (by decide) <| .verbatim (by decide) hpieces
  cases source with
  | none => exact hselect hrestriction
  | some source =>
    exact hselect <|
      source.showsPlaceholders.append (followsToken_restrictionPieces restriction) hrestriction

/-! ## Texts with their parameters -/

/-- `buffer.Numbers params`: the text has one placeholder for each of the parameters, numbered from
one in their order. -/
structure Buffer.Numbers (buffer : Buffer) (params : List Param) : Prop where
  params_eq : buffer.params = params
  paramIndex_eq : buffer.paramIndex = buffer.params.length
  placeholders_eq :
    placeholdersIn buffer.text = (List.range' 1 buffer.params.length).map Text.digits

theorem Buffer.paramIndex_appendAll (buffer : Buffer) (pieces : List Piece) :
    (buffer.appendAll pieces).paramIndex = buffer.paramIndex + (referred pieces).length := by
  induction pieces generalizing buffer with
  | nil => rfl
  | cons piece pieces ih =>
    change ((buffer.append piece).appendAll pieces).paramIndex = _
    rw [ih]
    cases piece with
    | param given => exact Nat.add_right_comm buffer.paramIndex 1 _
    | _ => rfl

theorem ShowsPlaceholders.numbers {pieces : List Piece} (hpieces : ShowsPlaceholders pieces) :
    (Buffer.ofPieces pieces).Numbers (referred pieces) := by
  have hparams : (Buffer.ofPieces pieces).params = referred pieces :=
    Buffer.params_appendAll .empty pieces
  refine ⟨hparams, ?_, ?_⟩
  · rw [hparams, Buffer.ofPieces, Buffer.paramIndex_appendAll]
    exact Nat.zero_add _
  · have hread := @hpieces 0 [] endsToken_nil
    rw [List.append_nil] at hread
    rw [hparams, placeholdersIn, Buffer.ofPieces, Buffer.toList_text_appendAll]
    exact hread.trans (List.append_nil _)

/-- A selection, and the question how it would be run, has one placeholder for each of its strings
and parameters, numbered in their order, whatever the names in it are. -/
theorem Select.numbers_sql_and_explainSql (select : Select)
    (hoperators : ∀ operator ∈ select.restriction.operators, IsUnmarked operator.toList) :
    select.sql.Numbers select.restriction.params ∧
      select.explainSql.Numbers select.restriction.params := by
  have hshows := Select.showsPlaceholders hoperators
  have hreferred : referred select.pieces = select.restriction.params := by
    rw [select.referred_pieces, select.restriction.referred_pieces]
  have hexplained : ShowsPlaceholders (explained select.pieces) := .verbatim (by decide) hshows
  have hreferredExplained : referred (explained select.pieces) = select.restriction.params :=
    hreferred
  rw [← hreferred]
  exact ⟨hshows.numbers, hexplained.numbers⟩

/-- A selection with names that look like placeholders, and with quotes in them. -/
def awkwardSelect : Select where
  source := some ⟨.stored "a\"$1" "$2\"\"", "\""⟩
  restriction := .and
    (.binary (.column (.aliased "\"") "$3") "LIKE" (.value (.string "A%")))
    (.not (.membership (.value (.variable "$9")) true [.value (.integer 1), .value (.positional 7)]))

/-- The placeholders of a selection are told from the names that look like them. -/
theorem numbers_awkwardSelect :
    (∀ operator ∈ awkwardSelect.restriction.operators, IsUnmarked operator.toList) ∧
      awkwardSelect.sql.params = [.string "A%", .variable "$9", .positional 7] ∧
      awkwardSelect.sql.paramIndex = 3 ∧
      placeholdersIn awkwardSelect.sql.text = [['1'], ['2'], ['3']] ∧
      placeholdersIn awkwardSelect.explainSql.text = [['1'], ['2'], ['3']] := by
  have hoperators : ∀ operator ∈ awkwardSelect.restriction.operators,
      IsUnmarked operator.toList := by
    decide
  obtain ⟨hsql, hexplain⟩ := awkwardSelect.numbers_sql_and_explainSql hoperators
  exact ⟨hoperators, hsql.params_eq, hsql.paramIndex_eq, hsql.placeholders_eq,
    hexplain.placeholders_eq⟩

end QueryModel.Sql
