import QueryModel.Proofs.Sql.Regrouped
import QueryModel.Proofs.Text.Delimited

/-! # How pieces are spelled

The text of pieces depends on how many placeholders are before them. Pieces that have the same text
and refer to the same parameters are taken apart from the front: what is read at the front shows
where it ends, and the pieces behind it are alike again.
-/

namespace QueryModel.Sql

/-- The text of pieces, after placeholders up to a number. -/
def spelled (index : Nat) : List Piece → List Char
  | [] => []
  | .verbatim text :: pieces => text.toList ++ spelled index pieces
  | .identifier name :: pieces => (identifierText name).toList ++ spelled index pieces
  | .param _ :: pieces => (placeholder (index + 1)).toList ++ spelled (index + 1) pieces

@[simp]
theorem spelled_nil (index : Nat) : spelled index [] = [] := rfl

@[simp]
theorem spelled_verbatim (index : Nat) (text : String) (pieces : List Piece) :
    spelled index (.verbatim text :: pieces) = text.toList ++ spelled index pieces := rfl

theorem head?_spelled_identifier (index : Nat) (name : String) (pieces : List Piece) :
    (spelled index (.identifier name :: pieces)).head? = some '"' := by
  rw [spelled, identifierText, Text.toList_quoted]
  rfl

theorem spelled_append (index : Nat) (pieces others : List Piece) :
    spelled index (pieces ++ others) =
      spelled index pieces ++ spelled (index + (referred pieces).length) others := by
  induction pieces generalizing index with
  | nil => rfl
  | cons piece pieces ih =>
    cases piece with
    | verbatim text => simp [ih]
    | identifier name => simp [spelled, ih]
    | param given => simp [spelled, ih, Nat.add_assoc, Nat.add_comm 1]

theorem Buffer.toList_text_appendAll (buffer : Buffer) (pieces : List Piece) :
    (buffer.appendAll pieces).text.toList =
      buffer.text.toList ++ spelled buffer.paramIndex pieces := by
  induction pieces generalizing buffer with
  | nil => exact (List.append_nil _).symm
  | cons piece pieces ih =>
    change ((buffer.append piece).appendAll pieces).text.toList = _
    rw [ih]
    cases piece <;> simp [Buffer.append, spelled]

/-- `SpelledAlike index pieces others`: after placeholders up to a number, the pieces have one text
and refer to the same parameters. -/
structure SpelledAlike (index : Nat) (pieces others : List Piece) : Prop where
  spelled_eq : spelled index pieces = spelled index others
  referred_eq : referred pieces = referred others

theorem spelledAlike_iff {pieces others : List Piece} :
    SpelledAlike 0 pieces others ↔
      (Buffer.ofPieces pieces).text = (Buffer.ofPieces others).text ∧
        (Buffer.ofPieces pieces).params = (Buffer.ofPieces others).params := by
  have htext (pieces : List Piece) : (Buffer.ofPieces pieces).text.toList = spelled 0 pieces :=
    Buffer.toList_text_appendAll .empty pieces
  have hparams (pieces : List Piece) : (Buffer.ofPieces pieces).params = referred pieces :=
    Buffer.params_appendAll .empty pieces
  rw [← String.toList_inj, htext, htext, hparams, hparams]
  exact ⟨fun hsame => ⟨hsame.1, hsame.2⟩, fun hsame => ⟨hsame.1, hsame.2⟩⟩

/-! ## What values and names end before -/

/-- Whether a character can stand in a value, or go on with a name. -/
def continuesValue (c : Char) : Bool := c != ' ' && c != ')' && c != ','

/-- Pieces that can follow a value. -/
def EndsValue (pieces : List Piece) : Prop :=
  ∀ index, ∀ c ∈ (spelled index pieces).head?, continuesValue c = false

theorem endsValue_nil : EndsValue [] := by
  simp [EndsValue]

theorem endsValue_verbatim {text : String} {pieces : List Piece}
    (htext : text.toList.head?.any (!continuesValue ·)) : EndsValue (.verbatim text :: pieces) := by
  intro index c hc
  rw [spelled_verbatim] at hc
  cases hlist : text.toList with
  | nil => simp [hlist] at htext
  | cons first tail =>
    rw [hlist] at hc htext
    obtain rfl : first = c := Option.some.inj hc
    simpa using htext

/-- Pieces that can follow a name that is not the beginning of a longer one. -/
def EndsName (pieces : List Piece) : Prop :=
  ∀ index, ∀ c ∈ (spelled index pieces).head?, c ≠ '"' ∧ c ≠ '.'

theorem EndsValue.endsName {pieces : List Piece} (hpieces : EndsValue pieces) :
    EndsName pieces := by
  intro index c hc
  have hends := hpieces index c hc
  constructor <;> rintro rfl <;> cases hends

namespace SpelledAlike

variable {index : Nat} {pieces others rest rests : List Piece}

theorem symm (hsame : SpelledAlike index pieces others) : SpelledAlike index others pieces :=
  ⟨hsame.spelled_eq.symm, hsame.referred_eq.symm⟩

theorem trans {last : List Piece} (hfirst : SpelledAlike index pieces others)
    (hsecond : SpelledAlike index others last) : SpelledAlike index pieces last :=
  ⟨hfirst.spelled_eq.trans hsecond.spelled_eq, hfirst.referred_eq.trans hsecond.referred_eq⟩

theorem verbatim {text : String}
    (hsame : SpelledAlike index (.verbatim text :: rest) (.verbatim text :: rests)) :
    SpelledAlike index rest rests :=
  ⟨List.append_cancel_left hsame.spelled_eq, hsame.referred_eq⟩

/-- One placeholder stands for one parameter. -/
theorem param {given other : Param}
    (hsame : SpelledAlike index (.param given :: rest) (.param other :: rests)) :
    given = other ∧ SpelledAlike (index + 1) rest rests := by
  obtain ⟨hgiven, hreferred⟩ := List.cons.inj hsame.referred_eq
  exact ⟨hgiven, List.append_cancel_left hsame.spelled_eq, hreferred⟩

/-- A name shows where it ends, whatever it is. -/
theorem identifier {name other : String} (hrest : ∀ c ∈ (spelled index rest).head?, c ≠ '"')
    (hrests : ∀ c ∈ (spelled index rests).head?, c ≠ '"')
    (hsame : SpelledAlike index (.identifier name :: rest) (.identifier other :: rests)) :
    name = other ∧ SpelledAlike index rest rests := by
  obtain ⟨hname, hspelled⟩ :=
    Text.quoted_append_inj (fun hhead => hrest _ hhead rfl) (fun hhead => hrests _ hhead rfl)
      hsame.spelled_eq
  exact ⟨hname, hspelled, hsame.referred_eq⟩

end SpelledAlike

/-! ## Names with points between them -/

/-- The pieces of names with points between them. -/
def dotted : List String → List Piece
  | [] => []
  | [name] => [.identifier name]
  | name :: second :: rest => .identifier name :: .verbatim "." :: dotted (second :: rest)

/-- Names with points between them show where they end. -/
theorem SpelledAlike.dotted {index : Nat} {rest others : List Piece} {name other : String}
    {names otherNames : List String} (hrest : EndsName rest) (hothers : EndsName others)
    (hsame : SpelledAlike index (Sql.dotted (name :: names) ++ rest)
      (Sql.dotted (other :: otherNames) ++ others)) :
    name :: names = other :: otherNames ∧ SpelledAlike index rest others := by
  have hpoint (pieces : List Piece) :
      ∀ c ∈ (spelled index (.verbatim "." :: pieces)).head?, c ≠ '"' := by
    rintro _ ⟨⟩
    decide
  have hends {pieces : List Piece} (hpieces : EndsName pieces) :
      ∀ c ∈ (spelled index pieces).head?, c ≠ '"' := fun c hc => (hpieces index c hc).1
  have hlonger {pieces longer : List Piece} (hpieces : EndsName pieces) :
      ¬SpelledAlike index pieces (.verbatim "." :: longer) := by
    intro hsame
    have hhead : '.' ∈ (spelled index pieces).head? := by
      rw [hsame.spelled_eq]
      rfl
    exact (hpieces index '.' hhead).2 rfl
  induction names generalizing name other otherNames with
  | nil =>
    cases otherNames with
    | nil =>
      obtain ⟨rfl, htail⟩ := hsame.identifier (hends hrest) (hends hothers)
      exact ⟨rfl, htail⟩
    | cons second otherNames =>
      obtain ⟨-, htail⟩ := hsame.identifier (hends hrest) (hpoint _)
      exact (hlonger hrest htail).elim
  | cons second names ih =>
    cases otherNames with
    | nil =>
      obtain ⟨-, htail⟩ := hsame.identifier (hpoint _) (hends hothers)
      exact (hlonger hothers htail.symm).elim
    | cons otherSecond otherNames =>
      obtain ⟨rfl, htail⟩ := hsame.identifier (hpoint _) (hpoint _)
      obtain ⟨hnames, htail⟩ := ih htail.verbatim
      exact ⟨congrArg _ hnames, htail⟩

namespace TableReference

/-- The names that a table is written with. -/
def names : TableReference → List String
  | .stored schema table => [schema, table]
  | .aliased name => [name]

theorem names_injective : Function.Injective names := by
  intro left right hsame
  cases left <;> cases right <;> cases hsame <;> rfl

theorem dotted_names (table : TableReference) : dotted table.names = table.pieces := by
  cases table <;> rfl

theorem exists_names_eq_cons (table : TableReference) :
    ∃ name names, table.names = name :: names := by
  cases table <;> exact ⟨_, _, rfl⟩

theorem dotted_names_append (table : TableReference) (name : String) :
    dotted (table.names ++ [name]) = table.pieces ++ [.verbatim ".", .identifier name] := by
  cases table <;> rfl

end TableReference

end QueryModel.Sql
