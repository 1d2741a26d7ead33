import Mathlib.Data.List.Forall2

/-! # Computations that can fail

A computation succeeds exactly if its parts do, one after another.
-/

namespace QueryModel

theorem Except.bind_eq_ok {ε α β : Type} {first : Except ε α} {rest : α → Except ε β}
    {result : β} :
    first >>= rest = .ok result ↔ ∃ value, first = .ok value ∧ rest value = .ok result := by
  cases first with
  | error error => simp [Bind.bind, Except.bind]
  | ok value => simp [Bind.bind, Except.bind]

/-- Where a step succeeds on every element of a list, the results are those of the elements. -/
theorem Except.forall₂_of_mapM_eq_ok {ε α β : Type} {step : α → Except ε β} {inputs : List α}
    {results : List β} (hresults : inputs.mapM step = .ok results) :
    List.Forall₂ (fun input result => step input = .ok result) inputs results := by
  induction inputs generalizing results with
  | nil => cases hresults; exact .nil
  | cons input rest ih =>
    rw [List.mapM_cons] at hresults
    obtain ⟨first, hfirst, hresults⟩ := Except.bind_eq_ok.mp hresults
    obtain ⟨others, hothers, ⟨⟩⟩ := Except.bind_eq_ok.mp hresults
    exact .cons hfirst (ih hothers)

namespace ExceptT

variable {σ ε α β : Type}

/-- A computation that succeeds consists of parts that succeed. -/
theorem exists_of_bind_eq_ok {first : ExceptT ε (StateM σ) α} {rest : α → ExceptT ε (StateM σ) β}
    {state next : σ} {value : β} (hrun : (first >>= rest).run.run state = (.ok value, next)) :
    ∃ middle between, first.run.run state = (.ok middle, between) ∧
      (rest middle).run.run between = (.ok value, next) := by
  rw [ExceptT.run_bind, StateT.run_bind] at hrun
  generalize first.run.run state = outcome at hrun ⊢
  obtain ⟨outcome | middle, between⟩ := outcome
  · cases hrun
  · exact ⟨middle, between, rfl, hrun⟩

/-- After a part that succeeds, the rest of the computation decides. -/
theorem run_bind_eq {first : ExceptT ε (StateM σ) α} {state between : σ} {middle : α}
    (hfirst : first.run.run state = (.ok middle, between)) (rest : α → ExceptT ε (StateM σ) β) :
    (first >>= rest).run.run state = (rest middle).run.run between := by
  rw [ExceptT.run_bind, StateT.run_bind, hfirst]
  rfl

end ExceptT

end QueryModel
