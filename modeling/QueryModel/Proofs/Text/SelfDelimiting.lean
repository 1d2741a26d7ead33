import QueryModel.Proofs.Query.Tokens
import QueryModel.Sql.Buffer

/-! # Quoting delimits itself

Names in SQL, and names and string literals in HQL, may be any texts, and are written so that a
reader sees where they end. Main statement: what is written for a text, together with what follows
it, is written for no other text and with nothing else behind it; and what is written for a name in
HQL is neither read as a word that means something of its own nor as a number.
-/

namespace QueryModel

namespace Text

/-- `SelfDelimiting write goesOn`: as long as what follows a written text does not begin with a
character that goes on with it, both are known from what they are together. -/
def SelfDelimiting (write : String → String) (goesOn : Char → Bool) : Prop :=
  ∀ ⦃text other rest others : String⦄, (∀ c ∈ rest.toList.head?, goesOn c = false) →
    (∀ c ∈ others.toList.head?, goesOn c = false) →
      write text ++ rest = write other ++ others → text = other ∧ rest = others

theorem selfDelimiting_iff {write : String → String} {goesOn : Char → Bool} :
    SelfDelimiting write goesOn ↔
      ∀ ⦃text other : String⦄ ⦃rest others : List Char⦄, (∀ c ∈ rest.head?, goesOn c = false) →
        (∀ c ∈ others.head?, goesOn c = false) →
          (write text).toList ++ rest = (write other).toList ++ others →
            text = other ∧ rest = others := by
  constructor
  · intro hwrite text other rest others hrest hothers hsame
    have hwritten := @hwrite text other (String.ofList rest) (String.ofList others)
    simp only [String.toList_ofList, ← String.toList_inj, String.toList_append] at hwritten
    obtain ⟨htext, hrests⟩ := hwritten hrest hothers hsame
    exact ⟨String.ext htext, hrests⟩
  · intro hwrite text other rest others hrest hothers hsame
    rw [← String.toList_inj, String.toList_append, String.toList_append] at hsame
    obtain ⟨htext, hrests⟩ := hwrite hrest hothers hsame
    exact ⟨htext, String.ext hrests⟩

/-- Whatever the mark is, a quoted text is ended by the first mark that is not doubled. -/
theorem selfDelimiting_quoted (mark : Char) : SelfDelimiting (quoted mark) (· == mark) := by
  have hends {rest : List Char} (hrest : ∀ c ∈ rest.head?, (c == mark) = false) :
      rest.head? ≠ some mark := fun hhead => by simpa using hrest mark hhead
  exact selfDelimiting_iff.mpr fun text other rest others hrest hothers hsame =>
    quoted_append_inj (hends hrest) (hends hothers) hsame

end Text

namespace Hql

/-- Whether a character goes on with a name, in quotes or without them. -/
def goesOnWithName (c : Char) : Bool := c == '\x60' || continuesName c

theorem selfDelimiting_identifier : Text.SelfDelimiting identifier goesOnWithName := by
  have hends {rest : List Char} (hrest : ∀ c ∈ rest.head?, goesOnWithName c = false) :
      EndsName rest := by
    intro c hc
    have hclosed := hrest c hc
    rw [goesOnWithName, Bool.or_eq_false_iff, beq_eq_false_iff_ne] at hclosed
    exact ⟨hclosed.2, hclosed.1⟩
  exact Text.selfDelimiting_iff.mpr fun text other rest others hrest hothers hsame =>
    identifier_append_inj (hends hrest) (hends hothers) hsame

/-- A text that is taken neither for a word that means something of its own, whatever the case of its
letters, nor for the beginning of a number. -/
structure ReadsAsName (text : String) : Prop where
  not_reserved : ∀ word ∈ reservedWords, text.toList.map Char.toLower ≠ word.toList
  not_digit : ∀ c ∈ text.toList.head?, c.isDigit = false

theorem map_toLower_ne_of_isPlainName {text : List Char} (htext : isPlainName text) {word : String}
    (hword : word ∈ reservedWords) : text.map Char.toLower ≠ word.toList := by
  cases text with
  | nil => cases htext
  | cons first rest =>
    simp only [isPlainName, isReserved, Bool.and_eq_true, Bool.not_eq_true', List.any_eq_false,
      beq_iff_eq] at htext
    exact fun hsame => htext.2 word hword hsame.symm

/-- A plain name is no reserved word, and no reserved word begins with the mark of other names. -/
theorem readsAsName_identifier (name : String) : ReadsAsName (identifier name) where
  not_reserved := by
    intro word hword
    obtain ⟨hname, hplain⟩ | hname := identifier_cases name
    · rw [hname]
      exact map_toLower_ne_of_isPlainName hplain hword
    · have hmarks : ∀ word ∈ reservedWords, word.toList.head? ≠ some '\x60' := by decide
      intro hsame
      refine hmarks word hword ?_
      rw [← hsame, hname, Text.toList_quoted]
      rfl
  not_digit := by
    intro c hc
    obtain ⟨rest, htext⟩ := List.head?_eq_some_iff.mp hc
    refine Bool.eq_false_iff.mpr fun hdigit => ?_
    have hne : c :: rest ≠ (identifier name).toList ++ [] := number_ne_identifier (Or.inl hdigit)
    exact hne (by rw [List.append_nil, htext])

end Hql

namespace Text

/-- Names in SQL, names in HQL and string literals in HQL delimit themselves, whatever they are, and
a name in HQL is read as one. -/
theorem selfDelimiting_and_readsAsName :
    SelfDelimiting Sql.identifierText (· == '"') ∧
      SelfDelimiting Hql.identifier Hql.goesOnWithName ∧
        SelfDelimiting Hql.stringLiteral (· == '\'') ∧
          ∀ name, Hql.ReadsAsName (Hql.identifier name) :=
  ⟨selfDelimiting_quoted '"', Hql.selfDelimiting_identifier, selfDelimiting_quoted '\'',
    Hql.readsAsName_identifier⟩

/-- Reserved words are names as well, and so are the empty text and a mark. -/
example :
    ["And", "ands", "", "\x60"].map Hql.identifier =
      ["\x60And\x60", "ands", "\x60\x60", "\x60\x60\x60\x60"] := by decide

end Text

end QueryModel
