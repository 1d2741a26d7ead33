import QueryModel.Proofs.Query.Tokens

/-! # Texts of scalars

The text of a scalar shows where it ends: every scalar is followed by a blank, a closing parenthesis
or a comma, if it is followed by anything, and no scalar goes on with one of these outside quotes.
Main statement: expressions with equal texts, whatever follows them, are equal in all that is shown.
-/

namespace QueryModel

namespace Source

/-- The text of a source. -/
def text : Source → List Char
  | .literal value => (Hql.literal value).toList
  | .parameter (.named name) => ':' :: (Hql.identifier name).toList
  | .parameter (.positional position) => '?' :: Text.digits position
  | .path root attributeName =>
    (Hql.identifier root.aliasName).toList ++ '.' :: (Hql.identifier attributeName).toList

/-- What the text of a source shows of it: a path by the name of its root, not by the entity. -/
def shown : Source → Source
  | .literal value => .literal value
  | .parameter supplied => .parameter supplied
  | .path root attributeName => .path ⟨"", root.aliasName⟩ attributeName

/-- The character that a source begins with, if no source of another kind begins with it. -/
def mark? : Source → Option Char
  | .literal (.string _) => some '\''
  | .literal _ => none
  | .parameter (.named _) => some ':'
  | .parameter (.positional _) => some '?'
  | .path _ _ => none

theorem toList_hql (scalar : Scalar) : scalar.hql.toList = scalar.source.text := by
  unfold Scalar.hql
  split
  · next hsource => rw [hsource, text]
  · next supplied hsource =>
    rw [hsource]
    cases supplied <;> simp [text, Hql.parameter]
  · next hsource => simp [hsource, text]

end Source

namespace Hql

/-- The characters that begin sources of one kind only. -/
def marks : List Char := ['\'', ':', '?']

/-- What a name, a word or a number begins with. -/
def Bare (c : Char) : Prop := c ∉ marks ∧ c ≠ '(' ∧ isOpen c

instance (c : Char) : Decidable (Bare c) := inferInstanceAs (Decidable (_ ∧ _))

theorem bare_of_begins {c : Char} (hc : (beginsName c ∨ c = '\x60') ∨ c.isDigit ∨ c = '-') :
    Bare c := by
  by_contra hnot
  simp only [Bare, marks, isOpen, List.mem_cons, List.not_mem_nil, or_false, Bool.and_eq_true,
    bne_iff_ne, ne_eq, not_and_or, not_not] at hnot
  obtain (rfl | rfl | rfl) | rfl | (rfl | rfl) | rfl := hnot <;> exact absurd hc (by decide)

/-- A source begins with a character of its kind, or with one that no kind of its own has. -/
theorem head_text (source : Source) :
    ∃ first rest, source.text = first :: rest ∧
      ((source.mark? = some first ∧ first ∈ marks) ∨ (source.mark? = none ∧ Bare first)) := by
  cases source with
  | literal value =>
    obtain ⟨text, rfl⟩ | hword | hnumber := literal_cases value
    · exact ⟨'\'', _, Text.toList_quoted .., Or.inl ⟨rfl, by decide⟩⟩
    · have hwords : ∀ word ∈ words, (Source.literal word.1).mark? = none ∧
          word.2 = word.2.headD ' ' :: word.2.tail ∧ Bare (word.2.headD ' ') := by
        decide
      obtain ⟨hmark, htext, hbare⟩ := hwords _ hword
      exact ⟨_, _, htext, Or.inr ⟨hmark, hbare⟩⟩
    · obtain ⟨first, rest, htext, hfirst⟩ := head_literal hnumber
      refine ⟨first, rest, htext, Or.inr ⟨?_, bare_of_begins (Or.inr hfirst)⟩⟩
      cases hnumber <;> rfl
  | parameter supplied =>
    cases supplied with
    | named name => exact ⟨':', _, rfl, Or.inl ⟨rfl, by decide⟩⟩
    | positional position => exact ⟨'?', _, rfl, Or.inl ⟨rfl, by decide⟩⟩
  | path root attributeName =>
    obtain ⟨first, rest, htext, hfirst⟩ := head_identifier root.aliasName
    refine ⟨first, rest ++ '.' :: (identifier attributeName).toList, ?_,
      Or.inr ⟨rfl, bare_of_begins (Or.inl hfirst)⟩⟩
    rw [Source.text, htext, List.cons_append]

theorem mark?_eq {left right : Source} {rest others : List Char}
    (hsame : left.text ++ rest = right.text ++ others) : left.mark? = right.mark? := by
  obtain ⟨first, tail, htext, hfirst⟩ := head_text left
  obtain ⟨otherFirst, otherTail, hother, hotherFirst⟩ := head_text right
  rw [htext, hother] at hsame
  obtain rfl : first = otherFirst := List.head_eq_of_cons_eq hsame
  obtain ⟨hmark, hmem⟩ | ⟨hmark, hbare⟩ := hfirst
  · obtain ⟨hmark', -⟩ | ⟨-, hbare⟩ := hotherFirst
    · rw [hmark, hmark']
    · exact (hbare.1 hmem).elim
  · obtain ⟨-, hmem⟩ | ⟨hmark', -⟩ := hotherFirst
    · exact (hbare.1 hmem).elim
    · rw [hmark, hmark']

theorem Ends.isDigit_eq_false {rest : List Char} (hrest : Ends rest) :
    ∀ c ∈ rest.head?, c.isDigit = false := by
  intro c hc
  have hclosed := hrest c hc
  simp only [isOpen, Bool.and_eq_false_iff, bne_eq_false_iff_eq] at hclosed
  obtain (rfl | rfl) | rfl := hclosed <;> decide

theorem endsName_point (rest : List Char) : EndsName ('.' :: rest) := by
  rintro _ ⟨⟩
  decide

theorem literal_append_inj {value other : Value} {rest others : List Char} (hrest : Ends rest)
    (hothers : Ends others)
    (hsame : (Source.literal value).text ++ rest = (Source.literal other).text ++ others) :
    value = other ∧ rest = others := by
  have hmark := mark?_eq hsame
  by_cases hvalue : ∃ text, value = .string text
  · obtain ⟨text, rfl⟩ := hvalue
    cases other with
    | string text' =>
      obtain ⟨rfl, hrests⟩ := Text.quoted_append_inj
        (fun hhead => absurd (hrest _ hhead) (by decide))
        (fun hhead => absurd (hothers _ hhead) (by decide)) hsame
      exact ⟨rfl, hrests⟩
    | _ => cases hmark
  · by_cases hother : ∃ text, other = .string text
    · obtain ⟨text, rfl⟩ := hother
      cases value with
      | string text' => exact (hvalue ⟨text', rfl⟩).elim
      | _ => cases hmark
    · rw [not_exists] at hvalue hother
      obtain ⟨htext, hrests⟩ := Text.run_append_inj (isOpen_of_mem_literal hvalue)
        (isOpen_of_mem_literal hother) hrest hothers hsame
      exact ⟨eq_of_literal_eq hvalue hother (String.ext htext), hrests⟩

theorem parameter_append_inj {supplied other : Parameter} {rest others : List Char}
    (hrest : Ends rest) (hothers : Ends others)
    (hsame : (Source.parameter supplied).text ++ rest = (Source.parameter other).text ++ others) :
    supplied = other ∧ rest = others := by
  have hmark := mark?_eq hsame
  cases supplied with
  | named name =>
    cases other with
    | named name' =>
      obtain ⟨rfl, hrests⟩ :=
        identifier_append_inj hrest.endsName hothers.endsName (List.tail_eq_of_cons_eq hsame)
      exact ⟨rfl, hrests⟩
    | positional position => exact absurd hmark (by simp [Source.mark?])
  | positional position =>
    cases other with
    | named name => exact absurd hmark (by simp [Source.mark?])
    | positional position' =>
      obtain ⟨htext, hrests⟩ := Text.run_append_inj (fun _ => Text.isDigit_of_mem_digits)
        (fun _ => Text.isDigit_of_mem_digits) hrest.isDigit_eq_false hothers.isDigit_eq_false
        (List.tail_eq_of_cons_eq hsame)
      rw [Text.digits_injective htext]
      exact ⟨rfl, hrests⟩

theorem path_append_inj {root other : Root} {name otherName : String} {rest others : List Char}
    (hrest : Ends rest) (hothers : Ends others)
    (hsame : (Source.path root name).text ++ rest = (Source.path other otherName).text ++ others) :
    root.aliasName = other.aliasName ∧ name = otherName ∧ rest = others := by
  simp only [Source.text, List.append_assoc, List.cons_append] at hsame
  obtain ⟨halias, htail⟩ :=
    identifier_append_inj (endsName_point _) (endsName_point _) hsame
  exact ⟨halias,
    identifier_append_inj hrest.endsName hothers.endsName (List.tail_eq_of_cons_eq htail)⟩

theorem literal_ne_path_text {value : Value} {root : Root} {name : String}
    {rest others : List Char} (hrest : Ends rest) :
    (Source.literal value).text ++ rest ≠ (Source.path root name).text ++ others := by
  intro hsame
  have hmark := mark?_eq hsame
  have hvalue : ∀ text, value ≠ .string text := by
    rintro text rfl
    cases hmark
  simp only [Source.text, List.append_assoc, List.cons_append] at hsame
  exact literal_ne_path hvalue hrest hsame

/-- Sources are shown alike if their texts are equal with what follows them. -/
theorem text_append_inj {left right : Source} {rest others : List Char} (hrest : Ends rest)
    (hothers : Ends others) (hsame : left.text ++ rest = right.text ++ others) :
    left.shown = right.shown ∧ rest = others := by
  have hmark := mark?_eq hsame
  cases left with
  | literal value =>
    cases right with
    | literal other =>
      obtain ⟨rfl, hrests⟩ := literal_append_inj hrest hothers hsame
      exact ⟨rfl, hrests⟩
    | parameter supplied =>
      cases supplied <;> cases value <;> exact absurd hmark (by simp [Source.mark?])
    | path root name => exact (literal_ne_path_text hrest hsame).elim
  | parameter supplied =>
    cases right with
    | literal value =>
      cases supplied <;> cases value <;> exact absurd hmark (by simp [Source.mark?])
    | parameter other =>
      obtain ⟨rfl, hrests⟩ := parameter_append_inj hrest hothers hsame
      exact ⟨rfl, hrests⟩
    | path root name => cases supplied <;> cases hmark
  | path root name =>
    cases right with
    | literal value => exact (literal_ne_path_text hothers hsame.symm).elim
    | parameter supplied => cases supplied <;> cases hmark
    | path other otherName =>
      obtain ⟨halias, rfl, hrests⟩ := path_append_inj hrest hothers hsame
      exact ⟨by rw [Source.shown, Source.shown, halias], hrests⟩

/-- No scalar is the word that negates. -/
theorem text_ne_not (source : Source) (rest others : List Char) :
    source.text ++ ' ' :: rest ≠ ['n', 'o', 't'] ++ ' ' :: others := by
  have hblank (tail : List Char) : Ends (' ' :: tail) := by
    rintro _ ⟨⟩
    decide
  intro hsame
  have hmark : source.mark? = none := by
    obtain ⟨first, tail, htext, ⟨-, hmem⟩ | ⟨hmark, -⟩⟩ := head_text source
    · rw [htext] at hsame
      obtain rfl : first = 'n' := List.head_eq_of_cons_eq hsame
      exact absurd hmem (by decide)
    · exact hmark
  cases source with
  | literal value =>
    have hvalue : ∀ text, value ≠ .string text := by
      rintro text rfl
      cases hmark
    obtain ⟨htext, -⟩ := Text.run_append_inj (isOpen_of_mem_literal hvalue)
      (List.all_eq_true.mp rfl) (hblank rest) (hblank others) hsame
    obtain ⟨text, hstring⟩ | hword | hnumber := literal_cases value
    · exact hvalue text hstring
    · have hwords : ∀ word ∈ words, word.2 ≠ ['n', 'o', 't'] := by decide
      exact hwords _ hword htext
    · exact absurd (isNumeric_of_isNumber hnumber 'n' (by simp [htext])) (by decide)
  | parameter supplied => cases supplied <;> cases hmark
  | path root name =>
    rw [Source.text, List.append_assoc] at hsame
    exact word_ne_path (List.all_eq_true.mp rfl) (hblank others) hsame.symm

end Hql

/-- What the text of a scalar shows of it. -/
def Scalar.shown (scalar : Scalar) : Source := scalar.source.shown

/-- What the text of an expression shows of it: whether it is a list, and its values. -/
def Expression.shown (expression : Expression) : Bool × List Source :=
  (expression.isList, expression.leaves.map Scalar.shown)

namespace Hql

variable {rest others : List Char}

theorem ends_of_head {c : Char} (hc : isOpen c = false) : Ends (c :: rest) := by
  rintro _ ⟨⟩
  exact hc

theorem scalar_append_inj {left right : Scalar} (hrest : Ends rest) (hothers : Ends others)
    (hsame : left.hql.toList ++ rest = right.hql.toList ++ others) :
    left.shown = right.shown ∧ rest = others := by
  rw [Source.toList_hql, Source.toList_hql] at hsame
  exact text_append_inj hrest hothers hsame

/-- A scalar begins with a character that opens and closes nothing. -/
theorem head_scalar (scalar : Scalar) :
    ∃ first tail, scalar.hql.toList = first :: tail ∧ first ≠ '(' ∧ isOpen first := by
  obtain ⟨first, tail, htext, ⟨-, hmem⟩ | ⟨-, hbare⟩⟩ := head_text scalar.source
  · refine ⟨first, tail, (Source.toList_hql scalar).trans htext, ?_⟩
    have hmarks : marks.all fun c => c != '(' && isOpen c := by decide
    simpa using List.all_eq_true.mp hmarks first hmem
  · exact ⟨first, tail, (Source.toList_hql scalar).trans htext, hbare.2⟩

theorem toList_commaSeparated_cons (scalar : Scalar) (scalars : List Scalar) :
    (commaSeparated (scalar :: scalars)).toList =
      scalar.hql.toList ++
        if scalars.isEmpty then [] else ',' :: ' ' :: (commaSeparated scalars).toList := by
  cases scalars with
  | nil => exact (List.append_nil _).symm
  | cons second scalars => simp [commaSeparated]

/-- No list begins with the parenthesis that ends it, unless it is empty. -/
theorem commaSeparated_cons_ne_end (scalar : Scalar) (scalars : List Scalar) :
    (commaSeparated (scalar :: scalars)).toList ++ rest ≠ ')' :: others := by
  intro hsame
  obtain ⟨first, tail, htext, -, hopen⟩ := head_scalar scalar
  rw [toList_commaSeparated_cons, htext] at hsame
  obtain rfl : first = ')' := List.head_eq_of_cons_eq hsame
  exact absurd hopen (by decide)

theorem commaSeparated_append_inj {left right : List Scalar}
    (hsame : (commaSeparated left).toList ++ ')' :: rest =
      (commaSeparated right).toList ++ ')' :: others) :
    left.map Scalar.shown = right.map Scalar.shown ∧ rest = others := by
  induction left generalizing right with
  | nil =>
    cases right with
    | nil => exact ⟨rfl, List.tail_eq_of_cons_eq hsame⟩
    | cons scalar right => exact (commaSeparated_cons_ne_end _ _ hsame.symm).elim
  | cons scalar left ih =>
    cases right with
    | nil => exact (commaSeparated_cons_ne_end _ _ hsame).elim
    | cons other right =>
      have hends (scalars : List Scalar) (tail : List Char) :
          Ends ((if scalars.isEmpty then [] else ',' :: ' ' :: (commaSeparated scalars).toList) ++
            ')' :: tail) := by
        split
        · exact ends_of_head (by decide)
        · exact ends_of_head (by decide)
      rw [toList_commaSeparated_cons, toList_commaSeparated_cons, List.append_assoc,
        List.append_assoc] at hsame
      obtain ⟨hshown, htail⟩ := scalar_append_inj (hends left rest) (hends right others) hsame
      cases left with
      | nil =>
        cases right with
        | nil => exact ⟨by simp [hshown], List.tail_eq_of_cons_eq htail⟩
        | cons second right => exact absurd (List.head_eq_of_cons_eq htail) (by decide)
      | cons second left =>
        cases right with
        | nil => exact absurd (List.head_eq_of_cons_eq htail) (by decide)
        | cons other' right =>
          obtain ⟨hshowns, hrests⟩ :=
            ih (List.tail_eq_of_cons_eq (List.tail_eq_of_cons_eq htail))
          rw [List.map_cons, hshown, hshowns, List.map_cons]
          exact ⟨rfl, hrests⟩

/-- Expressions are shown alike if their texts are equal with what follows them. -/
theorem expression_append_inj {left right : Expression} (hrest : Ends rest) (hothers : Ends others)
    (hsame : left.hql.toList ++ rest = right.hql.toList ++ others) :
    left.shown = right.shown ∧ rest = others := by
  have hlist (values : ValueList) (tail : List Char) : (Expression.list values).hql.toList ++ tail =
      '(' :: ((commaSeparated values.elements).toList ++ ')' :: tail) := by
    simp [Expression.hql]
  have hne (scalar : Scalar) (tail others : List Char) :
      scalar.hql.toList ++ tail ≠ '(' :: others := by
    intro hsame
    obtain ⟨first, text, htext, hfirst, -⟩ := head_scalar scalar
    rw [htext] at hsame
    exact hfirst (List.head_eq_of_cons_eq hsame)
  cases left with
  | scalar node =>
    cases right with
    | scalar other =>
      obtain ⟨hshown, hrests⟩ := scalar_append_inj hrest hothers hsame
      exact ⟨by simp [Expression.shown, Expression.isList, Expression.leaves, hshown], hrests⟩
    | list values =>
      rw [hlist] at hsame
      exact (hne _ _ _ hsame).elim
  | list values =>
    rw [hlist] at hsame
    cases right with
    | scalar node => exact (hne _ _ _ hsame.symm).elim
    | list others' =>
      rw [hlist] at hsame
      obtain ⟨hshown, hrests⟩ := commaSeparated_append_inj (List.tail_eq_of_cons_eq hsame)
      exact ⟨by simp [Expression.shown, Expression.isList, Expression.leaves, hshown], hrests⟩

end Hql

end QueryModel
