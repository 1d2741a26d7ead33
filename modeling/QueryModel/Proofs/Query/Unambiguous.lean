import QueryModel.Proofs.Query.Alike

/-! # HQL is unambiguous

The text of a query shows how it is grouped, although it has few parentheses. A predicate is taken
apart on three levels: a chain of disjuncts, each of them a chain of conjuncts, and each of these a
negation, a comparison or a test, or a predicate in parentheses. On every level the text shows where
it ends. Main statement: predicates have one text exactly if they are alike.
-/

namespace QueryModel

/-! ## Marks -/

/-- What stands after the first operand of a comparison or of a test. -/
inductive Mark where
  | comparison (operator : Operator)
  | nullness (negated : Bool)
  | between (negated : Bool)
deriving DecidableEq

namespace Mark

/-- The text of a mark, with the blanks around it. -/
def text : Mark → String
  | .comparison operator => " " ++ operator.hql ++ " "
  | .nullness negated => if negated then " is not null" else " is null"
  | .between negated => if negated then " not between " else " between "

/-- Every mark. -/
def all : List Mark :=
  Operator.all.map .comparison ++
    [.nullness false, .nullness true, .between false, .between true]

theorem mem_all (mark : Mark) : mark ∈ all := by
  cases mark with
  | comparison operator => cases operator <;> decide
  | nullness negated => cases negated <;> decide
  | between negated => cases negated <;> decide

/-- No mark begins with another one. -/
theorem eq_of_begins {left right : Mark} (hbegins : left.text.toList <+: right.text.toList) :
    left = right := by
  have hall : ∀ left ∈ all, ∀ right ∈ all, left.text.toList <+: right.text.toList →
      left = right := by
    decide
  exact hall left left.mem_all right right.mem_all hbegins

theorem append_inj {left right : Mark} {rest others : List Char}
    (hsame : left.text.toList ++ rest = right.text.toList ++ others) :
    left = right ∧ rest = others := by
  have hmarks : left = right := by
    rcases List.prefix_or_prefix_of_prefix (List.prefix_append left.text.toList rest)
      (hsame ▸ List.prefix_append right.text.toList others) with hbegins | hbegins
    · exact eq_of_begins hbegins
    · exact (eq_of_begins hbegins).symm
  subst hmarks
  exact ⟨rfl, List.append_cancel_left hsame⟩

theorem toList_text (mark : Mark) : mark.text.toList = ' ' :: mark.text.toList.tail := by
  have hall : ∀ mark ∈ all, mark.text.toList = ' ' :: mark.text.toList.tail := by decide
  exact hall mark mark.mem_all

theorem ends_text (mark : Mark) (rest : List Char) : Hql.Ends (mark.text.toList ++ rest) := by
  rw [toList_text]
  exact Hql.ends_of_head (by decide)

end Mark

namespace Predicate

/-- Predicates without predicates in them. -/
inductive IsLeaf : Predicate → Prop
  | comparison (id : NodeId) (left : Scalar) (operator : Operator) (right : Expression) :
      IsLeaf (.comparison id left operator right)
  | nullness (id : NodeId) (operand : Scalar) (negated : Bool) :
      IsLeaf (.nullness id operand negated)
  | between (id : NodeId) (operand lower upper : Scalar) (negated : Bool) :
      IsLeaf (.between id operand lower upper negated)

theorem toList_comparison (id : NodeId) (left : Scalar) (operator : Operator)
    (right : Expression) :
    (comparison id left operator right).hql.toList =
      left.hql.toList ++ ((Mark.comparison operator).text.toList ++ right.hql.toList) := by
  simp only [hql, Mark.text, String.toList_append, List.append_assoc]

theorem toList_nullness (id : NodeId) (operand : Scalar) (negated : Bool) :
    (nullness id operand negated).hql.toList =
      operand.hql.toList ++ (Mark.nullness negated).text.toList := by
  simp only [hql, Mark.text, String.toList_append]

theorem toList_between (id : NodeId) (operand lower upper : Scalar) (negated : Bool) :
    (between id operand lower upper negated).hql.toList =
      operand.hql.toList ++ ((Mark.between negated).text.toList ++
        (lower.hql.toList ++ (" and ".toList ++ upper.hql.toList))) := by
  simp only [hql, Mark.text, String.toList_append, List.append_assoc]

/-- The first operand of a leaf and the mark behind it can be told from the text. -/
theorem operand_mark_append_inj {left right : Scalar} {mark other : Mark}
    {rest others : List Char}
    (hsame : left.hql.toList ++ (mark.text.toList ++ rest) =
      right.hql.toList ++ (other.text.toList ++ others)) :
    left.shown = right.shown ∧ mark = other ∧ rest = others := by
  obtain ⟨hshown, htail⟩ := Hql.scalar_append_inj (mark.ends_text _) (other.ends_text _) hsame
  exact ⟨hshown, Mark.append_inj htail⟩

/-- Leaves are alike if their texts are equal with what follows them. -/
theorem leaf_append_inj {left right : Predicate} {rest others : List Char} (hleft : IsLeaf left)
    (hright : IsLeaf right) (hrest : Hql.Ends rest) (hothers : Hql.Ends others)
    (hsame : left.hql.toList ++ rest = right.hql.toList ++ others) :
    Alike left right ∧ rest = others := by
  have hand (tail : List Char) : Hql.Ends (" and ".toList ++ tail) := Hql.ends_of_head (by decide)
  cases hleft <;> cases hright <;>
    simp only [toList_comparison, toList_nullness, toList_between, List.append_assoc] at hsame <;>
    obtain ⟨hoperand, hmark, htail⟩ := operand_mark_append_inj hsame <;>
    cases hmark
  · next id left operator right id' left' right' =>
    obtain ⟨hright, hrests⟩ := Hql.expression_append_inj hrest hothers htail
    exact ⟨.comparison id id' operator hoperand hright, hrests⟩
  · exact ⟨.nullness _ _ _ hoperand, htail⟩
  · obtain ⟨hlower, htail⟩ := Hql.scalar_append_inj (hand _) (hand _) htail
    obtain ⟨hupper, hrests⟩ :=
      Hql.scalar_append_inj hrest hothers (List.append_cancel_left htail)
    exact ⟨.between _ _ _ hoperand hlower hupper, hrests⟩

/-! ## Chains -/

/-- Operands of a connective, each with the connective before it. -/
def links (connective : Connective) (operands : List Predicate) : List Char :=
  operands.flatMap fun operand =>
    (Hql.connective connective).toList ++ (operand.operandText connective).toList

theorem links_append (connective : Connective) (operands others : List Predicate) :
    links connective (operands ++ others) = links connective operands ++ links connective others :=
  List.flatMap_append

theorem links_cons (connective : Connective) (operand : Predicate) (operands : List Predicate) :
    links connective (operand :: operands) = (Hql.connective connective).toList ++
      ((operand.operandText connective).toList ++ links connective operands) := by
  rw [links, List.flatMap_cons, List.append_assoc]
  rfl

/-- The text of a chain is the texts of its operands with the connective between them. -/
theorem exists_chain_text (connective : Connective) (predicate : Predicate) :
    ∃ first operands, predicate.chain connective = first :: operands ∧
      (predicate.operandText connective).toList =
        (first.operandText connective).toList ++ links connective operands := by
  induction predicate with
  | junction id left between right ihleft ihright =>
    unfold chain
    split
    · next hbetween =>
      subst hbetween
      obtain ⟨first, operands, hleft, hleftText⟩ := ihleft
      obtain ⟨second, others, hright, hrightText⟩ := ihright
      refine ⟨first, operands ++ second :: others, by rw [hleft, hright]; rfl, ?_⟩
      rw [operandText_junction, hql_junction, String.toList_append, String.toList_append, hleftText,
        hrightText, links_append, links_cons]
      simp only [List.append_assoc]
    · exact ⟨_, [], rfl, (List.append_nil _).symm⟩
  | _ => exact ⟨_, [], rfl, (List.append_nil _).symm⟩

theorem connective?_of_mem_chain {connective : Connective} {predicate : Predicate} :
    ∀ operand ∈ predicate.chain connective, operand.connective? ≠ some connective := by
  induction predicate with
  | junction id left between right ihleft ihright =>
    unfold chain
    split
    · rw [List.forall_mem_append]
      exact ⟨ihleft, ihright⟩
    · next hbetween => simpa [connective?] using hbetween
  | _ => simp [chain, connective?]

/-- `Tells text domain follows size`: predicates of a domain are alike if their texts are equal with
what follows them, up to a size of the texts. -/
def Tells (text : Predicate → String) (domain : Predicate → Prop) (follows : List Char → Prop)
    (size : Nat) : Prop :=
  ∀ ⦃left right : Predicate⦄ ⦃rest others : List Char⦄, domain left → domain right →
    follows rest → follows others → ((text left).toList ++ rest).length ≤ size →
      (text left).toList ++ rest = (text right).toList ++ others → Alike left right ∧ rest = others

section chains

variable {connective : Connective} {inner outer : List Char → Prop} {size : Nat}

/-- What follows a chain does not go on with the chain. -/
theorem ne_links_cons {rest others : List Char}
    (hrest : ¬(Hql.connective connective).toList <+: rest) (operand : Predicate)
    (operands : List Predicate) : rest ≠ links connective (operand :: operands) ++ others := by
  rintro rfl
  rw [links_cons, List.append_assoc] at hrest
  exact hrest (List.prefix_append _ _)

/-- If the texts of operands show where they end, and what follows a chain does not begin with the
connective, then the text of a chain shows what its operands are. -/
theorem Tells.operands
    (htells : Tells (operandText connective) (fun operand => operand.connective? ≠ some connective)
      inner size)
    (hconnective : ∀ tail, inner ((Hql.connective connective).toList ++ tail))
    (houter : ∀ tail, outer tail → inner tail ∧ ¬(Hql.connective connective).toList <+: tail)
    {first second : Predicate} {operands operands' : List Predicate} {rest others : List Char}
    (hoperands : ∀ operand ∈ first :: operands, operand.connective? ≠ some connective)
    (hoperands' : ∀ operand ∈ second :: operands', operand.connective? ≠ some connective)
    (hrest : outer rest) (hothers : outer others)
    (hsize : ((first.operandText connective).toList ++ (links connective operands ++ rest)).length
      ≤ size)
    (hsame : (first.operandText connective).toList ++ (links connective operands ++ rest) =
      (second.operandText connective).toList ++ (links connective operands' ++ others)) :
    List.Forall₂ Alike (first :: operands) (second :: operands') ∧ rest = others := by
  have hinner (operands : List Predicate) {tail : List Char} (htail : outer tail) :
      inner (links connective operands ++ tail) := by
    cases operands with
    | nil => exact (houter tail htail).1
    | cons operand operands =>
      rw [links_cons, List.append_assoc]
      exact hconnective _
  induction operands generalizing first second operands' with
  | nil =>
    rw [List.forall_mem_cons] at hoperands hoperands'
    obtain ⟨hfirst, htail⟩ := htells hoperands.1 hoperands'.1 (hinner [] hrest)
      (hinner operands' hothers) hsize hsame
    cases operands' with
    | nil => exact ⟨.cons hfirst .nil, htail⟩
    | cons operand' operands' => exact (ne_links_cons (houter rest hrest).2 _ _ htail).elim
  | cons operand operands ih =>
    rw [List.forall_mem_cons] at hoperands hoperands'
    obtain ⟨hfirst, htail⟩ := htells hoperands.1 hoperands'.1 (hinner (operand :: operands) hrest)
      (hinner operands' hothers) hsize hsame
    cases operands' with
    | nil => exact (ne_links_cons (houter others hothers).2 _ _ htail.symm).elim
    | cons operand' operands' =>
      rw [links_cons, links_cons, List.append_assoc, List.append_assoc, List.append_assoc,
        List.append_assoc] at htail
      rw [links_cons] at hsize
      have hsize' : ((operand.operandText connective).toList ++
          (links connective operands ++ rest)).length ≤ size := by
        simp only [List.length_append] at hsize ⊢
        omega
      obtain ⟨hrests, hsameRest⟩ :=
        ih hoperands.2 hoperands'.2 hsize' (List.append_cancel_left htail)
      exact ⟨.cons hfirst hrests, hsameRest⟩

/-- A chain can be told from its text if its operands can be told from theirs. -/
theorem Tells.chain
    (htells : Tells (operandText connective) (fun operand => operand.connective? ≠ some connective)
      inner size)
    (hconnective : ∀ tail, inner ((Hql.connective connective).toList ++ tail))
    (houter : ∀ tail, outer tail → inner tail ∧ ¬(Hql.connective connective).toList <+: tail) :
    Tells (operandText connective) (fun _ => True) outer size := by
  intro left right rest others _ _ hrest hothers hsize hsame
  obtain ⟨first, operands, hleft, hleftText⟩ := exists_chain_text connective left
  obtain ⟨second, operands', hright, hrightText⟩ := exists_chain_text connective right
  rw [hleftText, hrightText, List.append_assoc, List.append_assoc] at hsame
  rw [hleftText, List.append_assoc] at hsize
  obtain ⟨hchain, hrests⟩ := htells.operands hconnective houter
    (hleft ▸ connective?_of_mem_chain) (hright ▸ connective?_of_mem_chain) hrest hothers hsize hsame
  refine ⟨alike_of_chain connective ?_, hrests⟩
  rwa [hleft, hright]

end chains

/-! ## Levels -/

/-- What follows a chain of conjuncts. -/
def EndsConjunction (rest : List Char) : Prop :=
  Hql.Ends rest ∧ ¬(Hql.connective .and).toList <+: rest

/-- What follows a whole predicate. -/
def EndsPredicate (rest : List Char) : Prop :=
  EndsConjunction rest ∧ ¬(Hql.connective .or).toList <+: rest

theorem toList_and : (Hql.connective .and).toList = [' ', 'a', 'n', 'd', ' '] := rfl

theorem toList_or : (Hql.connective .or).toList = [' ', 'o', 'r', ' '] := rfl

theorem endsPredicate_nil : EndsPredicate [] :=
  ⟨⟨by rintro _ ⟨⟩, by decide⟩, by decide⟩

theorem endsPredicate_parenthesis (rest : List Char) : EndsPredicate (')' :: rest) := by
  simp [EndsPredicate, EndsConjunction, toList_and, toList_or, Hql.Ends, Hql.isOpen]

theorem ends_and (tail : List Char) : Hql.Ends ((Hql.connective .and).toList ++ tail) :=
  Hql.ends_of_head (by decide)

theorem endsConjunction_or (tail : List Char) :
    EndsConjunction ((Hql.connective .or).toList ++ tail) := by
  simp [EndsConjunction, toList_and, toList_or, Hql.Ends, Hql.isOpen]

theorem toList_parenthesised (text : String) :
    (parenthesised true text).toList = '(' :: (text.toList ++ [')']) := by
  simp [parenthesised]

theorem operandText_or (predicate : Predicate) : predicate.operandText .or = predicate.hql := by
  cases predicate with
  | junction id left connective right => cases connective <;> rfl
  | _ => rfl

theorem operandText_and_of_ne_or {predicate : Predicate}
    (hpredicate : predicate.connective? ≠ some .or) :
    predicate.operandText .and = predicate.hql := by
  cases predicate with
  | junction id left connective right =>
    cases connective with
    | and => rfl
    | or => exact (hpredicate rfl).elim
  | _ => rfl

/-- The text of a predicate below a negation. -/
def negandText (predicate : Predicate) : String :=
  parenthesised (predicate.bindingStrength < 3) predicate.hql

theorem toList_negation (id : NodeId) (inner : Predicate) :
    (negation id inner).hql.toList = ['n', 'o', 't', ' '] ++ inner.negandText.toList := by
  rw [hql, String.toList_append]
  rfl

/-- `Closes text domain`: the texts of junctions of a domain are in parentheses. -/
def Closes (text : Predicate → String) (domain : Predicate → Prop) : Prop :=
  ∀ predicate, domain predicate → (predicate.connective? = none ∧ text predicate = predicate.hql) ∨
    (text predicate).toList = '(' :: (predicate.hql.toList ++ [')'])

theorem closes_negandText : Closes negandText fun _ => True := by
  rintro predicate -
  cases predicate with
  | junction id left connective right =>
    rw [negandText, ← toList_parenthesised]
    cases connective <;> exact Or.inr rfl
  | _ => exact Or.inl ⟨rfl, rfl⟩

theorem closes_operandText :
    Closes (operandText .and) fun predicate => predicate.connective? ≠ some .and := by
  intro predicate hpredicate
  cases predicate with
  | junction id left connective right =>
    cases connective with
    | and => exact (hpredicate rfl).elim
    | or =>
      rw [operandText, ← toList_parenthesised]
      exact Or.inr rfl
  | _ => exact Or.inl ⟨rfl, rfl⟩

/-- A predicate is a junction, a negation, or a leaf. -/
theorem junction_or_negation_or_leaf (predicate : Predicate) :
    (∃ id left connective right, predicate = .junction id left connective right) ∨
      (∃ id inner, predicate = .negation id inner) ∨ IsLeaf predicate := by
  cases predicate with
  | comparison id left operator right => exact Or.inr (Or.inr (.comparison ..))
  | junction id left connective right => exact Or.inl ⟨id, left, connective, right, rfl⟩
  | negation id inner => exact Or.inr (Or.inl ⟨id, inner, rfl⟩)
  | nullness id operand negated => exact Or.inr (Or.inr (.nullness ..))
  | between id operand lower upper negated => exact Or.inr (Or.inr (.between ..))

/-- A leaf begins with a scalar and a blank. -/
theorem IsLeaf.exists_scalar {predicate : Predicate} (hleaf : IsLeaf predicate) :
    ∃ scalar : Scalar, ∃ tail, predicate.hql.toList = scalar.hql.toList ++ ' ' :: tail := by
  cases hleaf with
  | comparison id left operator right =>
    rw [toList_comparison, Mark.toList_text]
    exact ⟨left, _, rfl⟩
  | nullness id operand negated =>
    rw [toList_nullness, Mark.toList_text]
    exact ⟨operand, _, rfl⟩
  | between id operand lower upper negated =>
    rw [toList_between, Mark.toList_text]
    exact ⟨operand, _, rfl⟩

theorem IsLeaf.ne_negation {predicate inner : Predicate} (hleaf : IsLeaf predicate) {id : NodeId}
    {rest others : List Char} :
    predicate.hql.toList ++ rest ≠ (negation id inner).hql.toList ++ others := by
  intro hsame
  obtain ⟨scalar, tail, htext⟩ := hleaf.exists_scalar
  rw [htext, toList_negation, Source.toList_hql, List.append_assoc, List.append_assoc] at hsame
  exact Hql.text_ne_not scalar.source _ _ hsame

/-- Only what is in parentheses begins with one. -/
theorem ne_parenthesis {predicate : Predicate} (hnone : predicate.connective? = none)
    {rest others : List Char} : predicate.hql.toList ++ rest ≠ '(' :: others := by
  intro hsame
  obtain ⟨id, left, connective, right, rfl⟩ | ⟨id, inner, rfl⟩ | hleaf :=
    junction_or_negation_or_leaf predicate
  · cases hnone
  · rw [toList_negation] at hsame
    exact absurd (List.head_eq_of_cons_eq hsame) (by decide)
  · obtain ⟨scalar, tail, htext⟩ := hleaf.exists_scalar
    obtain ⟨first, text, hscalar, hfirst, -⟩ := Hql.head_scalar scalar
    rw [htext, hscalar] at hsame
    exact hfirst (List.head_eq_of_cons_eq hsame)

section levels

variable {size : Nat}

/-- Predicates in parentheses are told from their texts if smaller ones are. -/
theorem Tells.parenthesised
    (hpredicates : ∀ smaller < size, Tells hql (fun _ => True) EndsPredicate smaller)
    {left right : Predicate} {rest others : List Char}
    (hsize : ('(' :: (left.hql.toList ++ [')']) ++ rest).length ≤ size)
    (hsame : '(' :: (left.hql.toList ++ [')']) ++ rest =
      '(' :: (right.hql.toList ++ [')']) ++ others) :
    Alike left right ∧ rest = others := by
  simp only [List.cons_append, List.append_assoc, List.nil_append, List.cons.injEq, true_and]
    at hsame
  have hsmaller : (left.hql.toList ++ ')' :: rest).length < size := by
    simp only [List.length_cons, List.length_append, List.length_nil] at hsize ⊢
    omega
  obtain ⟨halike, hrests⟩ := hpredicates _ hsmaller trivial trivial
    (endsPredicate_parenthesis rest) (endsPredicate_parenthesis others) (Nat.le_refl _) hsame
  exact ⟨halike, List.tail_eq_of_cons_eq hrests⟩

/-- Where junctions are in parentheses, predicates are told from their texts if smaller ones are,
and negations and leaves are. -/
theorem Tells.closed {text : Predicate → String} {domain : Predicate → Prop}
    (hclosed : Closes text domain)
    (hpredicates : ∀ smaller < size, Tells hql (fun _ => True) EndsPredicate smaller)
    (hplain : Tells hql (fun predicate => predicate.connective? = none) Hql.Ends size) :
    Tells text domain Hql.Ends size := by
  intro left right rest others hleft hright hrest hothers hsize hsame
  obtain ⟨hleftNone, hleftText⟩ | hleftText := hclosed left hleft
  · rw [hleftText] at hsize hsame
    obtain ⟨hrightNone, hrightText⟩ | hrightText := hclosed right hright
    · rw [hrightText] at hsame
      exact hplain hleftNone hrightNone hrest hothers hsize hsame
    · rw [hrightText] at hsame
      exact (ne_parenthesis hleftNone hsame).elim
  · rw [hleftText] at hsize hsame
    obtain ⟨hrightNone, hrightText⟩ | hrightText := hclosed right hright
    · rw [hrightText] at hsame
      exact (ne_parenthesis hrightNone hsame.symm).elim
    · rw [hrightText] at hsame
      exact Tells.parenthesised hpredicates hsize hsame

/-- Negations and leaves are told from their texts if what is below smaller negations is. -/
theorem Tells.plain
    (hnegands : ∀ smaller < size, Tells negandText (fun _ => True) Hql.Ends smaller) :
    Tells hql (fun predicate => predicate.connective? = none) Hql.Ends size := by
  intro left right rest others hleft hright hrest hothers hsize hsame
  obtain ⟨id, first, connective, second, rfl⟩ | ⟨id, inner, rfl⟩ | hleftLeaf :=
    junction_or_negation_or_leaf left
  · cases hleft
  · obtain ⟨id', first, connective, second, rfl⟩ | ⟨id', inner', rfl⟩ | hrightLeaf :=
      junction_or_negation_or_leaf right
    · cases hright
    · rw [toList_negation, List.append_assoc] at hsize hsame
      rw [toList_negation, List.append_assoc] at hsame
      have hsmaller : (inner.negandText.toList ++ rest).length < size := by
        rw [List.length_append] at hsize
        exact Nat.lt_of_lt_of_le (Nat.lt_add_of_pos_left (by decide)) hsize
      obtain ⟨halike, hrests⟩ := hnegands _ hsmaller trivial trivial hrest hothers (Nat.le_refl _)
        (List.append_cancel_left hsame)
      exact ⟨.negation id id' halike, hrests⟩
    · exact (hrightLeaf.ne_negation hsame.symm).elim
  · obtain ⟨id', first, connective, second, rfl⟩ | ⟨id', inner', rfl⟩ | hrightLeaf :=
      junction_or_negation_or_leaf right
    · cases hright
    · exact (hleftLeaf.ne_negation hsame).elim
    · exact leaf_append_inj hleftLeaf hrightLeaf hrest hothers hsame

/-- Predicates are told from their texts if conjuncts are. -/
theorem Tells.predicate
    (hconjuncts : Tells (operandText .and) (fun predicate => predicate.connective? ≠ some .and)
      Hql.Ends size) :
    Tells hql (fun _ => True) EndsPredicate size := by
  have hconjunctions : Tells (operandText .and) (fun _ => True) EndsConjunction size :=
    hconjuncts.chain ends_and fun _ htail => htail
  have hdisjuncts : Tells (operandText .or) (fun predicate => predicate.connective? ≠ some .or)
      EndsConjunction size := by
    intro left right rest others hleft hright hrest hothers hsize hsame
    rw [operandText_or, ← operandText_and_of_ne_or hleft] at hsize hsame
    rw [operandText_or, ← operandText_and_of_ne_or hright] at hsame
    exact hconjunctions trivial trivial hrest hothers hsize hsame
  have hpredicates := hdisjuncts.chain endsConjunction_or fun _ htail => htail
  intro left right rest others _ _ hrest hothers hsize hsame
  rw [← operandText_or] at hsize hsame
  rw [← operandText_or right] at hsame
  exact hpredicates trivial trivial hrest hothers hsize hsame

/-- Every predicate is told from its text. -/
theorem tells_hql (size : Nat) : Tells hql (fun _ => True) EndsPredicate size := by
  have hlevels : Tells hql (fun predicate => predicate.connective? = none) Hql.Ends size ∧
      Tells hql (fun _ => True) EndsPredicate size := by
    induction size using Nat.strongRecOn with
    | ind size ih =>
      have hpredicates := fun smaller hsmaller => (ih smaller hsmaller).2
      have hplain := Tells.plain fun smaller hsmaller =>
        Tells.closed closes_negandText
          (fun smallest hsmallest => hpredicates smallest (Nat.lt_trans hsmallest hsmaller))
          (ih smaller hsmaller).1
      exact ⟨hplain, Tells.predicate (Tells.closed closes_operandText hpredicates hplain)⟩
  exact hlevels.2

end levels

/-- Predicates have one text exactly if they are alike. -/
theorem hql_eq_iff_alike (left right : Predicate) : left.hql = right.hql ↔ Alike left right := by
  constructor
  · intro hsame
    exact (tells_hql (left.hql.toList ++ []).length trivial trivial endsPredicate_nil
      endsPredicate_nil (Nat.le_refl _) (congrArg (fun text => text.toList ++ []) hsame)).1
  · exact Alike.hql_eq

end Predicate

end QueryModel
