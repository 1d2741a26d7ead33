import QueryModel.Text.Numeral
import QueryModel.Text.Quoted

/-! # Texts that show where they end

A text that is followed by another one can be told from it if it shows where it ends: a run of
characters ends before the first character of another class, and a quoted text ends at the first
mark that is not doubled. Two such texts with whatever follows them are equal only if the texts are
equal and what follows them is.
-/

namespace QueryModel.Text

section run

variable {isInside : Char → Bool} {run rest : List Char}

theorem takeWhile_run (hrun : ∀ c ∈ run, isInside c)
    (hrest : ∀ c ∈ rest.head?, isInside c = false) :
    (run ++ rest).takeWhile isInside = run := by
  rw [List.takeWhile_append_of_pos hrun]
  cases rest with
  | nil => exact List.append_nil run
  | cons c rest => rw [List.takeWhile_cons_of_neg (by simp [hrest c rfl]), List.append_nil]

theorem dropWhile_run (hrun : ∀ c ∈ run, isInside c)
    (hrest : ∀ c ∈ rest.head?, isInside c = false) :
    (run ++ rest).dropWhile isInside = rest := by
  rw [List.dropWhile_append_of_pos hrun]
  cases rest with
  | nil => rfl
  | cons c rest => rw [List.dropWhile_cons_of_neg (by simp [hrest c rfl])]

/-- Runs of characters of a class that are followed by no character of the class are equal if they
are with what follows them. -/
theorem run_append_inj {other others : List Char} (hrun : ∀ c ∈ run, isInside c)
    (hother : ∀ c ∈ other, isInside c) (hrest : ∀ c ∈ rest.head?, isInside c = false)
    (hothers : ∀ c ∈ others.head?, isInside c = false) (hsame : run ++ rest = other ++ others) :
    run = other ∧ rest = others := by
  have hruns : run = other := by
    rw [← takeWhile_run hrun hrest, hsame, takeWhile_run hother hothers]
  subst hruns
  exact ⟨rfl, List.append_cancel_left hsame⟩

end run

private theorem doubled_cons_append_ne {mark c : Char} {text rest other : List Char}
    (hother : other.head? ≠ some mark) :
    doubled mark (c :: text) ++ rest ≠ mark :: other := by
  intro hsame
  simp only [doubled] at hsame
  split at hsame
  · obtain rfl := List.tail_eq_of_cons_eq hsame
    exact hother rfl
  · next hc => exact hc (List.head_eq_of_cons_eq hsame)

theorem doubled_append_inj {mark : Char} {left right rest other : List Char}
    (hrest : rest.head? ≠ some mark) (hother : other.head? ≠ some mark)
    (hsame : doubled mark left ++ mark :: rest = doubled mark right ++ mark :: other) :
    left = right ∧ rest = other := by
  induction left generalizing right with
  | nil =>
    cases right with
    | nil => exact ⟨rfl, List.tail_eq_of_cons_eq hsame⟩
    | cons d right => exact (doubled_cons_append_ne hrest hsame.symm).elim
  | cons c left ih =>
    cases right with
    | nil => exact (doubled_cons_append_ne hother hsame).elim
    | cons d right =>
      simp only [doubled] at hsame
      split at hsame <;> split at hsame
      · next hc hd =>
        subst hc hd
        obtain ⟨rfl, hrests⟩ := ih (List.tail_eq_of_cons_eq (List.tail_eq_of_cons_eq hsame))
        exact ⟨rfl, hrests⟩
      · next hd => exact (hd (List.head_eq_of_cons_eq hsame).symm).elim
      · next hc hd => exact (hc (List.head_eq_of_cons_eq hsame)).elim
      · obtain rfl := List.head_eq_of_cons_eq hsame
        obtain ⟨rfl, hrests⟩ := ih (List.tail_eq_of_cons_eq hsame)
        exact ⟨rfl, hrests⟩

/-- Quoted texts that are followed by no mark are equal if they are with what follows them. -/
theorem quoted_append_inj {mark : Char} {left right : String} {rest other : List Char}
    (hrest : rest.head? ≠ some mark) (hother : other.head? ≠ some mark)
    (hsame : (quoted mark left).toList ++ rest = (quoted mark right).toList ++ other) :
    left = right ∧ rest = other := by
  simp only [toList_quoted, List.cons_append, List.append_assoc, List.cons.injEq,
    true_and] at hsame
  obtain ⟨htext, hrests⟩ := doubled_append_inj hrest hother hsame
  exact ⟨String.ext htext, hrests⟩

theorem digits_injective {m n : Nat} (hsame : digits m = digits n) : m = n := by
  rw [← ofDigits_digits m, hsame, ofDigits_digits]

theorem isDigit_of_mem_digits {n : Nat} {c : Char} (hc : c ∈ digits n) : c.isDigit :=
  Nat.isDigit_of_mem_toDigits (by decide) (by decide) hc

theorem digits_ne_nil (n : Nat) : digits n ≠ [] := Nat.toDigits_ne_nil

theorem numeral_injective {m n : Int} (hsame : numeral m = numeral n) : m = n := by
  have hminus {k l : Nat} (hsame : digits k = '-' :: digits l) : False := by
    have hdigit : '-'.isDigit := isDigit_of_mem_digits (n := k) (by simp [hsame])
    exact absurd hdigit (by decide)
  cases m with
  | ofNat m =>
    cases n with
    | ofNat n => exact congrArg Int.ofNat (digits_injective hsame)
    | negSucc n => exact (hminus hsame).elim
  | negSucc m =>
    cases n with
    | ofNat n => exact (hminus hsame.symm).elim
    | negSucc n =>
      have hsucc := digits_injective (List.tail_eq_of_cons_eq hsame)
      exact congrArg Int.negSucc (Nat.succ.inj hsucc)

end QueryModel.Text
