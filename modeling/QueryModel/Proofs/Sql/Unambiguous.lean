import Mathlib.Data.List.Forall2
import QueryModel.Proofs.Sql.Literals

/-! # SQL is unambiguous

An expression with operands stands in parentheses, except a negation, so that its text shows where
it ends: behind the first operand there is a connector, no connector begins with another one, and
the connector tells which operands are still to come. Main statement: selections have one text and
the same parameters exactly if they select from one table and their restrictions are the same, up to
numbers that are written alike.
-/

namespace QueryModel.Sql

/-! ## Connectors -/

/-- What stands behind the first operand of an expression in parentheses. -/
inductive Connector where
  | and
  | or
  | comparison (operator : Operator) (hsingle : operator.isMultiValued = false)
  | membership (negated : Bool)
  | nullness (negated : Bool)
  | between (negated : Bool)
deriving DecidableEq

namespace Connector

/-- The text of a connector, with the blanks around it. The parenthesis before a list belongs to
the connector of a membership, and keeps it apart from an operator between two operands. -/
def text : Connector → String
  | .and => " AND "
  | .or => " OR "
  | .comparison operator _ => " " ++ operator.sql ++ " "
  | .membership negated => if negated then " NOT IN (" else " IN ("
  | .nullness negated => if negated then " IS NOT NULL" else " IS NULL"
  | .between negated => if negated then " NOT BETWEEN " else " BETWEEN "

/-- Every connector. -/
def all : List Connector :=
  [.and, .or, .comparison .equals rfl, .comparison .notEquals rfl, .comparison .lessThan rfl,
    .comparison .lessThanOrEqual rfl, .comparison .greaterThan rfl,
    .comparison .greaterThanOrEqual rfl, .comparison .like rfl, .comparison .notLike rfl,
    .comparison .ilike rfl, .comparison .notIlike rfl, .membership false, .membership true,
    .nullness false, .nullness true, .between false, .between true]

theorem mem_all (connector : Connector) : connector ∈ all := by
  cases connector with
  | and => decide
  | or => decide
  | comparison operator hsingle => cases operator <;> cases hsingle <;> decide
  | membership negated => cases negated <;> decide
  | nullness negated => cases negated <;> decide
  | between negated => cases negated <;> decide

/-- No connector begins with another one. -/
theorem eq_of_begins {left right : Connector}
    (hbegins : left.text.toList <+: right.text.toList) : left = right := by
  have hall : ∀ left ∈ all, ∀ right ∈ all, left.text.toList <+: right.text.toList →
      left = right := by
    decide
  exact hall left left.mem_all right right.mem_all hbegins

theorem endsValue (connector : Connector) (pieces : List Piece) :
    EndsValue (.verbatim connector.text :: pieces) := by
  have hall : ∀ connector ∈ all,
      connector.text.toList.head?.any (!continuesValue ·) = true := by
    decide
  exact endsValue_verbatim (hall connector connector.mem_all)

end Connector

theorem SpelledAlike.connector {index : Nat} {rest others : List Piece} {left right : Connector}
    (hsame : SpelledAlike index (.verbatim left.text :: rest) (.verbatim right.text :: others)) :
    left = right ∧ SpelledAlike index rest others := by
  have hconnectors : left = right := by
    have hleft : left.text.toList <+: spelled index (.verbatim left.text :: rest) :=
      List.prefix_append _ _
    have hright : right.text.toList <+: spelled index (.verbatim left.text :: rest) := by
      rw [hsame.spelled_eq]
      exact List.prefix_append _ _
    rcases List.prefix_or_prefix_of_prefix hleft hright with hbegins | hbegins
    · exact Connector.eq_of_begins hbegins
    · exact (Connector.eq_of_begins hbegins).symm
  subst hconnectors
  exact ⟨rfl, hsame.verbatim⟩

namespace Expression

/-- An expression in which the operators between two operands are operators between values. -/
inductive HasKnownOperators : Expression → Prop
  | and {left right : Expression} (hleft : HasKnownOperators left)
      (hright : HasKnownOperators right) : HasKnownOperators (.and left right)
  | or {left right : Expression} (hleft : HasKnownOperators left)
      (hright : HasKnownOperators right) : HasKnownOperators (.or left right)
  | not {operand : Expression} (hoperand : HasKnownOperators operand) :
      HasKnownOperators (.not operand)
  | binary {left right : Expression} {text : String} (operator : Operator)
      (hsingle : operator.isMultiValued = false) (htext : text = operator.sql)
      (hleft : HasKnownOperators left) (hright : HasKnownOperators right) :
      HasKnownOperators (.binary left text right)
  | membership {left : Expression} {items : List Expression} (negated : Bool)
      (hleft : HasKnownOperators left) (hitems : ∀ item ∈ items, HasKnownOperators item) :
      HasKnownOperators (.membership left negated items)
  | nullness {operand : Expression} (negated : Bool) (hoperand : HasKnownOperators operand) :
      HasKnownOperators (.nullness operand negated)
  | between {operand lower upper : Expression} (negated : Bool)
      (hoperand : HasKnownOperators operand) (hlower : HasKnownOperators lower)
      (hupper : HasKnownOperators upper) :
      HasKnownOperators (.between operand lower upper negated)
  | column (table : TableReference) (name : String) : HasKnownOperators (.column table name)
  | value (value : Value) : HasKnownOperators (.value value)

/-- Expressions that are the same, up to numbers that are written alike. -/
inductive SameUpToNumbers : Expression → Expression → Prop
  | and {left left' right right' : Expression} (hleft : SameUpToNumbers left left')
      (hright : SameUpToNumbers right right') :
      SameUpToNumbers (.and left right) (.and left' right')
  | or {left left' right right' : Expression} (hleft : SameUpToNumbers left left')
      (hright : SameUpToNumbers right right') :
      SameUpToNumbers (.or left right) (.or left' right')
  | not {operand operand' : Expression} (hoperand : SameUpToNumbers operand operand') :
      SameUpToNumbers (.not operand) (.not operand')
  | binary {left left' right right' : Expression} (operator : String)
      (hleft : SameUpToNumbers left left') (hright : SameUpToNumbers right right') :
      SameUpToNumbers (.binary left operator right) (.binary left' operator right')
  | membership {left left' : Expression} {items items' : List Expression} (negated : Bool)
      (hleft : SameUpToNumbers left left') (hitems : List.Forall₂ SameUpToNumbers items items') :
      SameUpToNumbers (.membership left negated items) (.membership left' negated items')
  | nullness {operand operand' : Expression} (negated : Bool)
      (hoperand : SameUpToNumbers operand operand') :
      SameUpToNumbers (.nullness operand negated) (.nullness operand' negated)
  | between {operand operand' lower lower' upper upper' : Expression} (negated : Bool)
      (hoperand : SameUpToNumbers operand operand') (hlower : SameUpToNumbers lower lower')
      (hupper : SameUpToNumbers upper upper') :
      SameUpToNumbers (.between operand lower upper negated)
        (.between operand' lower' upper' negated)
  | column (table : TableReference) (name : String) :
      SameUpToNumbers (.column table name) (.column table name)
  | value {value value' : Value} (hvalue : value.SameUpToNumbers value') :
      SameUpToNumbers (.value value) (.value value')

/-! ## Expressions in parentheses -/

/-- `expression.Opens first connector tail`: in the parentheses of the expression, there is the
connector behind the first operand, and the tail behind the connector. -/
inductive Opens : Expression → Expression → Connector → List Piece → Prop
  | and (left right : Expression) :
      Opens (.and left right) left .and (right.pieces ++ [.verbatim ")"])
  | or (left right : Expression) :
      Opens (.or left right) left .or (right.pieces ++ [.verbatim ")"])
  | comparison (left right : Expression) {text : String} (operator : Operator)
      (hsingle : operator.isMultiValued = false) (htext : text = operator.sql) :
      Opens (.binary left text right) left (.comparison operator hsingle)
        (right.pieces ++ [.verbatim ")"])
  | membership (left : Expression) (negated : Bool) (items : List Expression) :
      Opens (.membership left negated items) left (.membership negated)
        (itemPieces items ++ [.verbatim ")", .verbatim ")"])
  | nullness (operand : Expression) (negated : Bool) :
      Opens (.nullness operand negated) operand (.nullness negated) [.verbatim ")"]
  | between (operand lower upper : Expression) (negated : Bool) :
      Opens (.between operand lower upper negated) operand (.between negated)
        (lower.pieces ++ .verbatim Connector.and.text :: upper.pieces ++ [.verbatim ")"])

theorem Opens.spelledAlike {expression first : Expression} {connector : Connector}
    {tail : List Piece} (hopens : expression.Opens first connector tail) (index : Nat)
    (rest : List Piece) :
    SpelledAlike index (expression.pieces ++ rest)
      (.verbatim "(" :: (first.pieces ++ .verbatim connector.text :: (tail ++ rest))) := by
  cases hopens with
  | and left right =>
    constructor <;> simp [pieces, spelled_append, Connector.text]
  | or left right =>
    constructor <;> simp [pieces, spelled_append, Connector.text]
  | comparison left right operator hsingle htext =>
    constructor <;> simp [pieces, spelled_append, Connector.text, htext]
  | membership left negated items =>
    constructor <;> cases negated <;> simp [pieces, spelled_append, Connector.text]
  | nullness operand negated =>
    constructor <;> simp [pieces, spelled_append, Connector.text]
  | between operand lower upper negated =>
    constructor <;> simp [pieces, spelled_append, Connector.text]

/-- The character that an expression begins with. -/
def opening : Expression → Char
  | .not _ => 'N'
  | .column _ _ => '"'
  | .value shown => shown.opening
  | .and _ _ | .or _ _ | .binary _ _ _ | .membership _ _ _ | .nullness _ _ | .between _ _ _ _ => '('

theorem head?_spelled (index : Nat) (expression : Expression) (rest : List Piece) :
    (spelled index (expression.pieces ++ rest)).head? = some expression.opening := by
  cases expression with
  | not operand => rfl
  | column table name => cases table <;> exact head?_spelled_identifier index _ _
  | value value => exact value.head?_spelled_piece index rest
  | _ => rfl

theorem opening_ne_closing (expression : Expression) : expression.opening ≠ ')' := by
  cases expression with
  | value value => exact value.opening_ne (by decide) (by decide)
  | _ => simp [opening]

theorem HasKnownOperators.exists_opens {expression : Expression}
    (hknown : expression.HasKnownOperators) (hopening : expression.opening = '(') :
    ∃ first connector tail, expression.Opens first connector tail ∧ first.HasKnownOperators := by
  cases hknown with
  | and hleft hright => exact ⟨_, _, _, .and _ _, hleft⟩
  | or hleft hright => exact ⟨_, _, _, .or _ _, hleft⟩
  | binary operator hsingle htext hleft hright =>
    exact ⟨_, _, _, .comparison _ _ operator hsingle htext, hleft⟩
  | membership negated hleft hitems => exact ⟨_, _, _, .membership _ negated _, hleft⟩
  | nullness negated hoperand => exact ⟨_, _, _, .nullness _ negated, hoperand⟩
  | between negated hoperand hlower hupper =>
    exact ⟨_, _, _, .between _ _ _ negated, hoperand⟩
  | not hoperand => simp [opening] at hopening
  | column table name => simp [opening] at hopening
  | value value => exact (value.opening_ne (by decide) (by decide) hopening).elim

theorem Opens.opening_eq {expression first : Expression} {connector : Connector}
    {tail : List Piece} (hopens : expression.Opens first connector tail) :
    expression.opening = '(' := by
  cases hopens <;> rfl

/-- `left.IsTold`: another expression is the same, up to numbers, if it has the same text and
parameters, each of the two before something that can follow a value. -/
def IsTold (left : Expression) : Prop :=
  ∀ ⦃right : Expression⦄ ⦃index : Nat⦄ ⦃rest others : List Piece⦄, right.HasKnownOperators →
    EndsValue rest → EndsValue others →
      SpelledAlike index (left.pieces ++ rest) (right.pieces ++ others) →
        left.SameUpToNumbers right ∧ ∃ later, SpelledAlike later rest others

section told

variable {left right : Expression} {index : Nat} {rest others : List Piece}

theorem opening_eq (hsame : SpelledAlike index (left.pieces ++ rest) (right.pieces ++ others)) :
    left.opening = right.opening := by
  have hhead := congrArg List.head? hsame.spelled_eq
  rw [head?_spelled, head?_spelled] at hhead
  exact Option.some.inj hhead

theorem endsValue_closing (rest : List Piece) : EndsValue (.verbatim ")" :: rest) :=
  endsValue_verbatim (by decide)

/-- The first operand of an expression in parentheses is told with the connector behind it. -/
theorem IsTold.first {first : Expression} {connector : Connector} {tail : List Piece}
    (hfirst : first.IsTold) (hopens : left.Opens first connector tail)
    (hright : right.HasKnownOperators)
    (hsame : SpelledAlike index (left.pieces ++ rest) (right.pieces ++ others)) :
    ∃ second behind, right.Opens second connector behind ∧ first.SameUpToNumbers second ∧
      ∃ later, SpelledAlike later (tail ++ rest) (behind ++ others) := by
  have hopening : right.opening = '(' := (opening_eq hsame).symm.trans hopens.opening_eq
  obtain ⟨second, connector', behind, hopens', hsecond⟩ := hright.exists_opens hopening
  have hinside := ((hopens.spelledAlike index rest).symm.trans hsame).trans
    (hopens'.spelledAlike index others)
  obtain ⟨hoperands, later, hconnectors⟩ :=
    hfirst hsecond (connector.endsValue _) (connector'.endsValue _) hinside.verbatim
  obtain ⟨rfl, htail⟩ := hconnectors.connector
  exact ⟨second, behind, hopens', hoperands, later, htail⟩

/-- The last operand of an expression in parentheses is told with the parenthesis behind it. -/
theorem IsTold.last (hleft : left.IsTold) (hright : right.HasKnownOperators)
    (hsame : SpelledAlike index (left.pieces ++ [.verbatim ")"] ++ rest)
      (right.pieces ++ [.verbatim ")"] ++ others)) :
    left.SameUpToNumbers right ∧ ∃ later, SpelledAlike later rest others := by
  rw [List.append_assoc, List.append_assoc] at hsame
  obtain ⟨hoperands, later, htail⟩ :=
    hleft hright (endsValue_closing rest) (endsValue_closing others) hsame
  exact ⟨hoperands, later, htail.verbatim⟩

/-- Columns are told from their names, whatever these are. -/
theorem eq_of_column {table table' : TableReference} {name name' : String}
    (hrest : EndsValue rest) (hothers : EndsValue others)
    (hsame : SpelledAlike index ((column table name).pieces ++ rest)
      ((column table' name').pieces ++ others)) :
    table = table' ∧ name = name' ∧ SpelledAlike index rest others := by
  rw [pieces, pieces, ← table.dotted_names_append, ← table'.dotted_names_append] at hsame
  obtain ⟨first, names, hnames⟩ := table.exists_names_eq_cons
  obtain ⟨first', names', hnames'⟩ := table'.exists_names_eq_cons
  rw [hnames, hnames', List.cons_append, List.cons_append] at hsame
  obtain ⟨hall, htail⟩ := hsame.dotted hrest.endsName hothers.endsName
  rw [← List.cons_append, ← List.cons_append, ← hnames, ← hnames'] at hall
  obtain ⟨htables, hname⟩ := List.append_inj' hall rfl
  exact ⟨TableReference.names_injective htables, List.head_eq_of_cons_eq hname, htail⟩

/-- The pieces behind an item of a list, with the parenthesis that ends the list. -/
def itemsTail : List Expression → List Piece → List Piece
  | [], rest => .verbatim ")" :: rest
  | item :: items, rest => .verbatim ", " :: (itemPieces (item :: items) ++ .verbatim ")" :: rest)

theorem itemPieces_cons_append (item : Expression) (items : List Expression) (rest : List Piece) :
    itemPieces (item :: items) ++ .verbatim ")" :: rest =
      item.pieces ++ itemsTail items rest := by
  cases items <;> simp [itemPieces, itemsTail]

theorem endsValue_itemsTail (items : List Expression) (rest : List Piece) :
    EndsValue (itemsTail items rest) := by
  cases items with
  | nil => exact endsValue_closing rest
  | cons item items => exact endsValue_verbatim (by decide)

/-- Items are told from the pieces of a list. -/
theorem told_items {items items' : List Expression} (hitems : ∀ item ∈ items, item.IsTold)
    (hitems' : ∀ item ∈ items', item.HasKnownOperators)
    (hsame : SpelledAlike index (itemPieces items ++ .verbatim ")" :: rest)
      (itemPieces items' ++ .verbatim ")" :: others)) :
    List.Forall₂ SameUpToNumbers items items' ∧ ∃ later, SpelledAlike later rest others := by
  have hclosing (index : Nat) (item : Expression) (items : List Expression)
      (rest others : List Piece) :
      ¬SpelledAlike index (.verbatim ")" :: rest)
        (itemPieces (item :: items) ++ .verbatim ")" :: others) := by
    intro hsame
    have hhead := congrArg List.head? hsame.spelled_eq
    rw [itemPieces_cons_append, head?_spelled] at hhead
    exact item.opening_ne_closing (Option.some.inj hhead).symm
  have hcomma (index : Nat) (rest others : List Piece) :
      ¬SpelledAlike index (.verbatim ")" :: rest) (.verbatim ", " :: others) := by
    intro hsame
    exact absurd (List.head_eq_of_cons_eq hsame.spelled_eq) (by decide)
  -- Along both lists at once: behind an item, a comma tells that another one follows.
  induction items generalizing items' index with
  | nil =>
    cases items' with
    | nil => exact ⟨.nil, index, hsame.verbatim⟩
    | cons item' items' => exact (hclosing index item' items' rest others hsame).elim
  | cons item items ih =>
    cases items' with
    | nil => exact (hclosing index item items others rest hsame.symm).elim
    | cons item' items' =>
      rw [List.forall_mem_cons] at hitems hitems'
      rw [itemPieces_cons_append, itemPieces_cons_append] at hsame
      obtain ⟨hitem, later, htail⟩ := hitems.1 hitems'.1 (endsValue_itemsTail items rest)
        (endsValue_itemsTail items' others) hsame
      cases items with
      | nil =>
        cases items' with
        | nil => exact ⟨.cons hitem .nil, later, htail.verbatim⟩
        | cons second' items' => exact (hcomma _ _ _ htail).elim
      | cons second items =>
        cases items' with
        | nil => exact (hcomma _ _ _ htail.symm).elim
        | cons second' items' =>
          obtain ⟨hrests, hlater⟩ := ih hitems.2 hitems'.2 htail.verbatim
          exact ⟨.cons hitem hrests, hlater⟩

theorem told_column (table : TableReference) (name : String) : (column table name).IsTold := by
  intro right index rest others hright hrest hothers hsame
  cases hright with
  | column table' name' =>
    obtain ⟨rfl, rfl, htail⟩ := eq_of_column hrest hothers hsame
    exact ⟨.column table name, index, htail⟩
  | value given =>
    exact (given.opening_ne (c := '"') (by decide) (by decide) (opening_eq hsame).symm).elim
  | _ => exact absurd (opening_eq hsame) (by simp [opening])

theorem told_value (given : Value) : (value given).IsTold := by
  intro right index rest others hright hrest hothers hsame
  cases hright with
  | value other =>
    obtain ⟨hvalue, hlater⟩ := SpelledAlike.value hrest hothers hsame
    exact ⟨.value hvalue, hlater⟩
  | not hoperand => exact (SpelledAlike.value_ne_not hrest hsame).elim
  | column table name =>
    exact (given.opening_ne (c := '"') (by decide) (by decide) (opening_eq hsame)).elim
  | _ => exact (given.opening_ne (c := '(') (by decide) (by decide) (opening_eq hsame)).elim

theorem IsTold.not (hleft : left.IsTold) : (Expression.not left).IsTold := by
  intro right index rest others hright hrest hothers hsame
  cases hright with
  | not hright =>
    obtain ⟨hoperand, hlater⟩ := hleft hright hrest hothers hsame.verbatim
    exact ⟨.not hoperand, hlater⟩
  | value given => exact (SpelledAlike.value_ne_not hothers hsame.symm).elim
  | _ => exact absurd (opening_eq hsame) (by simp [opening])

/-- Every expression with known operators is told from its pieces. -/
theorem HasKnownOperators.isTold (hleft : left.HasKnownOperators) : left.IsTold := by
  -- Once the connector is told, the other expression can only be of the same kind.
  induction hleft with
  | and hleft hright ihleft ihright =>
    intro right index rest others hknown hrest hothers hsame
    obtain ⟨second, behind, hopens, hfirst, later, htail⟩ := ihleft.first (.and _ _) hknown hsame
    cases hopens
    cases hknown with | and _ hright' => ?_
    obtain ⟨hlast, hlater⟩ := ihright.last hright' htail
    exact ⟨.and hfirst hlast, hlater⟩
  | or hleft hright ihleft ihright =>
    intro right index rest others hknown hrest hothers hsame
    obtain ⟨second, behind, hopens, hfirst, later, htail⟩ := ihleft.first (.or _ _) hknown hsame
    cases hopens
    cases hknown with | or _ hright' => ?_
    obtain ⟨hlast, hlater⟩ := ihright.last hright' htail
    exact ⟨.or hfirst hlast, hlater⟩
  | not hoperand ih => exact ih.not
  | binary operator hsingle htext hleft hright ihleft ihright =>
    intro right index rest others hknown hrest hothers hsame
    obtain ⟨second, behind, hopens, hfirst, later, htail⟩ :=
      ihleft.first (.comparison _ _ operator hsingle htext) hknown hsame
    cases hopens with | comparison _ right' _ _ htext' => ?_
    cases hknown with | binary _ _ _ _ hright' => ?_
    obtain ⟨hlast, hlater⟩ := ihright.last hright' htail
    rw [htext, htext']
    exact ⟨.binary operator.sql hfirst hlast, hlater⟩
  | membership negated hleft hitems ihleft ihitems =>
    intro right index rest others hknown hrest hothers hsame
    obtain ⟨second, behind, hopens, hfirst, later, htail⟩ :=
      ihleft.first (.membership _ negated _) hknown hsame
    cases hopens
    cases hknown with | membership _ _ hitems' => ?_
    rw [List.append_assoc, List.append_assoc] at htail
    obtain ⟨hsameItems, last, hclosing⟩ := told_items ihitems hitems' htail
    exact ⟨.membership negated hfirst hsameItems, last, hclosing.verbatim⟩
  | nullness negated hoperand ih =>
    intro right index rest others hknown hrest hothers hsame
    obtain ⟨second, behind, hopens, hfirst, later, htail⟩ :=
      ih.first (.nullness _ negated) hknown hsame
    cases hopens
    exact ⟨.nullness negated hfirst, later, htail.verbatim⟩
  | between negated hoperand hlower hupper ihoperand ihlower ihupper =>
    intro right index rest others hknown hrest hothers hsame
    obtain ⟨second, behind, hopens, hfirst, later, htail⟩ :=
      ihoperand.first (.between _ _ _ negated) hknown hsame
    cases hopens
    cases hknown with | between _ _ hlower' hupper' => ?_
    simp only [List.append_assoc, List.cons_append] at htail
    obtain ⟨hsameLower, middle, hand⟩ :=
      ihlower hlower' (Connector.and.endsValue _) (Connector.and.endsValue _) htail
    obtain ⟨hsameUpper, last, hclosing⟩ :=
      ihupper hupper' (endsValue_closing _) (endsValue_closing _) hand.verbatim
    exact ⟨.between negated hfirst hsameLower hsameUpper, last, hclosing.verbatim⟩
  | column table name => exact told_column table name
  | value given => exact told_value given

end told

theorem SameUpToNumbers.isAlways_eq {left right : Expression}
    (hsame : left.SameUpToNumbers right) : left.isAlways = right.isAlways := by
  cases hsame with
  | value hvalue => cases hvalue <;> rfl
  | _ => rfl

theorem itemPieces_eq {items items' : List Expression}
    (hitems : List.Forall₂ (fun item item' => item.pieces = item'.pieces) items items') :
    itemPieces items = itemPieces items' := by
  induction hitems with
  | nil => rfl
  | cons hitem hrest ih =>
    rw [itemPieces, itemPieces, hitem, ih]
    cases hrest <;> rfl

/-- Expressions that are the same up to numbers that are written alike are written alike. -/
theorem SameUpToNumbers.pieces_eq {left right : Expression} (hleft : left.HasKnownOperators)
    (hsame : left.SameUpToNumbers right) : left.pieces = right.pieces := by
  induction hleft generalizing right with
  | and _ _ ihleft ihright =>
    cases hsame with | and hleft hright => rw [pieces, pieces, ihleft hleft, ihright hright]
  | or _ _ ihleft ihright =>
    cases hsame with | or hleft hright => rw [pieces, pieces, ihleft hleft, ihright hright]
  | not _ ih => cases hsame with | not hoperand => rw [pieces, pieces, ih hoperand]
  | binary _ _ _ _ _ ihleft ihright =>
    cases hsame with | binary _ hleft hright => rw [pieces, pieces, ihleft hleft, ihright hright]
  | membership _ _ _ ihleft ihitems =>
    cases hsame with | membership _ hleft hitems => ?_
    have hpieces := (List.forall₂_and_left _ _).mpr ⟨ihitems, hitems⟩
    rw [pieces, pieces, ihleft hleft, itemPieces_eq (hpieces.imp fun _ _ hitem => hitem.1 hitem.2)]
  | nullness _ _ ih => cases hsame with | nullness _ hoperand => rw [pieces, pieces, ih hoperand]
  | between _ _ _ _ ihoperand ihlower ihupper =>
    cases hsame with | between _ hoperand hlower hupper => ?_
    rw [pieces, pieces, ihoperand hoperand, ihlower hlower, ihupper hupper]
  | column table name => cases hsame; rfl
  | value given => cases hsame with | value hvalue => rw [pieces, pieces, hvalue.piece_eq]

end Expression

/-! ## Selections -/

section selections

variable {index : Nat}

theorem endsValue_restrictionPieces (restriction : Expression) :
    EndsValue (restrictionPieces restriction) := by
  unfold restrictionPieces
  split
  · exact endsValue_nil
  · exact endsValue_verbatim (by decide)

/-- A restriction is told from its pieces, also where it is left out. -/
theorem sameUpToNumbers_of_restrictionPieces {left right : Expression}
    (hleft : left.HasKnownOperators) (hright : right.HasKnownOperators)
    (hsame : SpelledAlike index (restrictionPieces left) (restrictionPieces right)) :
    left.SameUpToNumbers right := by
  have hwhere (rest : List Piece) : ¬SpelledAlike index [] (.verbatim " WHERE " :: rest) :=
    fun hsame => List.cons_ne_nil _ _ hsame.spelled_eq.symm
  unfold restrictionPieces at hsame
  split at hsame <;> split at hsame
  · next halways halways' =>
    rw [Expression.eq_always_of_isAlways halways, Expression.eq_always_of_isAlways halways']
    exact .value (.refl _)
  · exact (hwhere _ hsame).elim
  · exact (hwhere _ hsame.symm).elim
  · rw [← List.append_nil left.pieces, ← List.append_nil right.pieces] at hsame
    exact (hleft.isTold hright endsValue_nil endsValue_nil hsame.verbatim).1

/-- The table of a selection is told from its names, whatever these are. -/
theorem From.eq_of_spelledAlike {left right : From} {rest others : List Piece}
    (hrest : EndsValue rest) (hothers : EndsValue others)
    (hsame : SpelledAlike index (left.pieces ++ rest) (right.pieces ++ others)) :
    left = right ∧ SpelledAlike index rest others := by
  obtain ⟨table, aliasName⟩ := left
  obtain ⟨table', aliasName'⟩ := right
  obtain ⟨first, names, hnames⟩ := table.exists_names_eq_cons
  obtain ⟨first', names', hnames'⟩ := table'.exists_names_eq_cons
  have has (pieces : List Piece) : EndsName (.verbatim " AS " :: pieces) :=
    (endsValue_verbatim (by decide)).endsName
  simp only [From.pieces, List.cons_append, List.append_assoc, ← TableReference.dotted_names,
    hnames, hnames', List.nil_append] at hsame
  obtain ⟨hall, htail⟩ := hsame.verbatim.dotted (has _) (has _)
  rw [← hnames, ← hnames'] at hall
  obtain rfl := TableReference.names_injective hall
  obtain ⟨rfl, hrests⟩ := htail.verbatim.identifier (fun c hc => (hrest.endsName index c hc).1)
    fun c hc => (hothers.endsName index c hc).1
  exact ⟨rfl, hrests⟩

/-- Selections that are told apart neither by their texts nor by their parameters select from one
table, and their restrictions are the same up to numbers that are written alike. -/
theorem Select.eq_of_spelledAlike {left right : Select}
    (hleft : left.restriction.HasKnownOperators) (hright : right.restriction.HasKnownOperators)
    (hsame : SpelledAlike index left.pieces right.pieces) :
    left.source = right.source ∧ left.restriction.SameUpToNumbers right.restriction := by
  obtain ⟨source, restriction⟩ := left
  obtain ⟨source', restriction'⟩ := right
  have hends := endsValue_restrictionPieces restriction
  have hends' := endsValue_restrictionPieces restriction'
  have hfrom {pieces rest : List Piece} {source : From} (hpieces : EndsValue pieces) :
      ¬SpelledAlike index pieces (source.pieces ++ rest) := by
    intro hsame
    have hhead : 'F' ∈ (spelled index pieces).head? := by
      rw [hsame.spelled_eq]
      rfl
    exact absurd (hpieces index 'F' hhead) (by decide)
  have hbehind := hsame.verbatim.verbatim.verbatim
  cases source with
  | none =>
    cases source' with
    | none => exact ⟨rfl, sameUpToNumbers_of_restrictionPieces hleft hright hbehind⟩
    | some source' => exact (hfrom hends hbehind).elim
  | some source =>
    cases source' with
    | none => exact (hfrom hends' hbehind.symm).elim
    | some source' =>
      obtain ⟨rfl, htail⟩ := From.eq_of_spelledAlike hends hends' hbehind
      exact ⟨rfl, sameUpToNumbers_of_restrictionPieces hleft hright htail⟩

/-- Selections have one text and the same parameters exactly if they select from one table and
their restrictions are the same, up to numbers that are written alike. -/
theorem Select.sql_eq_iff {left right : Select} (hleft : left.restriction.HasKnownOperators)
    (hright : right.restriction.HasKnownOperators) :
    left.sql.text = right.sql.text ∧ left.sql.params = right.sql.params ↔
      left.source = right.source ∧ left.restriction.SameUpToNumbers right.restriction := by
  rw [sql, sql, ← spelledAlike_iff]
  refine ⟨eq_of_spelledAlike hleft hright, ?_⟩
  rintro ⟨hsource, hrestriction⟩
  have hpieces : left.pieces = right.pieces := by
    rw [pieces, pieces, hsource, restrictionPieces, restrictionPieces, hrestriction.isAlways_eq,
      hrestriction.pieces_eq hleft]
  rw [hpieces]
  exact ⟨rfl, rfl⟩

end selections

end QueryModel.Sql
