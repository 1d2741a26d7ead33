import QueryModel.Proofs.Query.Store

/-! # Computations that extend the store

A computation with a state, which may fail, is described by the stores it leads to: started in a
state that fits a store, it ends in one that fits a larger store. What is put together from such
computations is treated by the rules for sequencing, without looking into any of them.
-/

namespace QueryModel

/-- Started in a state that fits a store, a computation that succeeds ends in one that fits a larger
store, and `made` holds of its value there. -/
def ExtendsIfOk {σ ε α : Type} (fits : NodeStore → σ → Prop)
    (computation : StateT σ (Except ε) α) (store : NodeStore) (made : α → NodeStore → Prop) :
    Prop :=
  ∀ state, fits store state → ∀ value later, computation state = .ok (value, later) →
    ∃ larger, store ≤ larger ∧ fits larger later ∧ made value larger

namespace ExtendsIfOk

variable {σ ε α β : Type} {fits : NodeStore → σ → Prop} {store : NodeStore}

theorem pure {made : α → NodeStore → Prop} {value : α} (hmade : made value store) :
    ExtendsIfOk fits (Pure.pure value : StateT σ (Except ε) α) store made := by
  rintro state hfits _ _ ⟨⟩
  exact ⟨store, le_refl _, hfits, hmade⟩

theorem bind {computation : StateT σ (Except ε) α} {rest : α → StateT σ (Except ε) β}
    {made : α → NodeStore → Prop} {after : β → NodeStore → Prop}
    (hcomputation : ExtendsIfOk fits computation store made)
    (hrest : ∀ value larger, store ≤ larger → made value larger →
      ExtendsIfOk fits (rest value) larger after) :
    ExtendsIfOk fits (computation >>= rest) store after := by
  intro state hfits value later hrun
  cases hfirst : computation state with
  | error error => simp [Bind.bind, StateT.bind, hfirst, Except.bind] at hrun
  | ok result =>
    obtain ⟨middle, next⟩ := result
    obtain ⟨larger, hle, hfits', hmade⟩ := hcomputation state hfits middle next hfirst
    have hsecond : rest middle next = .ok (value, later) := by
      simpa [Bind.bind, StateT.bind, hfirst, Except.bind] using hrun
    obtain ⟨largest, hle', hfits'', hafter⟩ :=
      hrest middle larger hle hmade next hfits' value later hsecond
    exact ⟨largest, hle.trans hle', hfits'', hafter⟩

theorem mono {computation : StateT σ (Except ε) α} {made weaker : α → NodeStore → Prop}
    (hcomputation : ExtendsIfOk fits computation store made)
    (hweaker : ∀ value larger, store ≤ larger → made value larger → weaker value larger) :
    ExtendsIfOk fits computation store weaker := by
  intro state hfits value later hrun
  obtain ⟨larger, hle, hfits', hmade⟩ := hcomputation state hfits value later hrun
  exact ⟨larger, hle, hfits', hweaker value larger hle hmade⟩

/-- What is made of several values, one after the other, is in the store if each is. -/
theorem mapM_mem {step : α → StateT σ (Except ε) β} (node : β → Node)
    (hstep : ∀ value store, ExtendsIfOk fits (step value) store fun result larger =>
      node result ∈ larger) (values : List α) :
    ExtendsIfOk fits (values.mapM step) store fun results larger =>
      ∀ result ∈ results, node result ∈ larger := by
  induction values generalizing store with
  | nil => exact pure (by simp)
  | cons value rest ih =>
    rw [List.mapM_cons]
    refine (hstep value store).bind fun first larger _ hfirst => ?_
    refine ih.bind fun others largest hle hothers => ?_
    exact pure (List.forall_mem_cons.mpr ⟨NodeStore.mem_of_le hle hfirst, hothers⟩)

end ExtendsIfOk

end QueryModel
