import QueryModel.Json.Record
import QueryModel.Proofs.Json.Tree
import QueryModel.Proofs.Outcome

/-! # Records and maps are read back

What the readers of records, maps and names make of a document that holds a value.
-/

namespace QueryModel.Json

/-! ## Strings and names -/

namespace Document.Holds

variable {document : Document} {text : String}

theorem text_eq (hdocument : document.Holds (.string text)) : document.text = .ok text := by
  cases hdocument
  rfl

theorem nullable_text_eq (hdocument : document.Holds (.string text)) :
    document.nullable Document.text = .ok (some text) := by
  cases hdocument
  rfl

theorem choice_eq {α : Type} {ofName? : String → Option α} {choice : α}
    (hdocument : document.Holds (.string text)) (hname : ofName? text = some choice) :
    document.choice ofName? = .ok choice := by
  cases hdocument
  simp [Document.choice, hname]

/-! ## Records -/

theorem exists_record_eq {members : List (String × Json)}
    (hdocument : document.Holds (.object members)) :
    ∃ documents closing, MembersHold documents members ∧
      ∀ names, document.record names = .ok ⟨documents, .ok closing⟩ := by
  cases hdocument with
  | object line closing hmembers => exact ⟨_, closing, hmembers, fun names => rfl⟩

end Document.Holds

variable {σ : Type} {step : σ → Key → String → Document → Except Nat σ}

/-- `Takes step state name value next`: reading a member with the name, from whatever document holds
the value, leads from one state to the next. -/
def Takes (step : σ → Key → String → Document → Except Nat σ) (state : σ) (name : String)
    (value : Json) (next : σ) : Prop :=
  ∀ key document, document.Holds value → step state key name document = .ok next

/-- `FoldsTo step members initial final`: reading the members one after another leads from one state
to the other. -/
inductive FoldsTo (step : σ → Key → String → Document → Except Nat σ) :
    List (String × Json) → σ → σ → Prop
  | nil {state : σ} : FoldsTo step [] state state
  | cons {name : String} {value : Json} {rest : List (String × Json)} {state next final : σ}
      (hmember : Takes step state name value next) (hrest : FoldsTo step rest next final) :
      FoldsTo step ((name, value) :: rest) state final

/-- An empty field takes what is read for it. -/
theorem fill_none {α : Type} {read : Except Nat α} {value : α} (hread : read = .ok value)
    (key : Key) : fill none key read = .ok (some value) := by
  rw [hread]
  rfl

/-- What fills a field has been read. -/
theorem of_fill_eq_ok {α : Type} {held : Option α} {key : Key} {read : Except Nat α} {value : α}
    (hfill : fill held key read = .ok (some value)) : read = .ok value := by
  cases held with
  | some held => cases hfill
  | none =>
    cases read with
    | error line => cases hfill
    | ok known =>
      cases hfill
      rfl

theorem Record.fold_eq {documents : List (Key × Document)} {members : List (String × Json)}
    {initial final : σ} (hdocuments : MembersHold documents members)
    (hfolds : FoldsTo step members initial final) (closing : Nat) :
    (⟨documents, .ok closing⟩ : Record).fold step initial = .ok (final, closing) := by
  induction hfolds generalizing documents with
  | nil =>
    cases hdocuments
    rfl
  | cons hmember _ ih =>
    cases hdocuments with
    | cons hname hvalue hdocuments =>
      have hrest := ih hdocuments
      simp only [Record.fold] at hrest ⊢
      rw [List.foldlM_cons, hname]
      dsimp only
      rw [hmember _ _ hvalue]
      exact hrest

/-- What every step keeps is kept by reading a whole record. -/
theorem Record.fold_induction {record : Record} {property : σ → Prop} {initial final : σ}
    {closing : Nat} (hfold : record.fold step initial = .ok (final, closing))
    (hinitial : property initial)
    (hstep : ∀ state key name document next, step state key name document = .ok next →
      property state → property next) : property final := by
  obtain ⟨last, hmembers, hend⟩ := Except.bind_eq_ok.mp hfold
  obtain ⟨line, -, ⟨⟩⟩ := Except.bind_eq_ok.mp hend
  clear hfold hend
  generalize record.members = members at hmembers
  induction members generalizing initial with
  | nil =>
    cases hmembers
    exact hinitial
  | cons member rest ih =>
    rw [List.foldlM_cons] at hmembers
    obtain ⟨next, hnext, hrest⟩ := Except.bind_eq_ok.mp hmembers
    refine ih ?_ hrest
    split at hnext
    · cases hnext
    · exact hstep _ _ _ _ _ hnext hinitial

/-! ## Maps -/

/-- A map is read back from the members that its entries are written as. -/
theorem Document.Holds.map_eq {α : Type} {read : Document → Except Nat α} {toJson : α → Json}
    {map : SortedMap α}
    (hread : ∀ entry ∈ map.entries, ∀ document : Document, document.Holds (toJson entry.2) →
      read document = .ok entry.2)
    {document : Document}
    (hdocument : document.Holds
      (.object (map.entries.map fun entry => (entry.1, toJson entry.2)))) :
    document.map read = .ok map := by
  have hfolds (entries : List (String × α)) (hentries : entries ⊆ map.entries)
      (state : SortedMap α) :
      FoldsTo (fun map _ name document => do return map.insert name (← read document))
        (entries.map fun entry => (entry.1, toJson entry.2)) state
        (entries.foldl (fun map entry => map.insert entry.1 entry.2) state) := by
    induction entries generalizing state with
    | nil => exact .nil
    | cons entry rest ih =>
      refine .cons (fun key document hdocument => ?_)
        (ih (List.subset_of_cons_subset hentries) _)
      rw [hread entry (hentries (List.mem_cons_self ..)) document hdocument]
      rfl
  cases hdocument with
  | object line closing hmembers =>
    have hfold := Record.fold_eq hmembers
      (hfolds map.entries (List.Subset.refl _) SortedMap.empty) closing
    simp only [Document.map, Ending.closing]
    rw [hfold]
    exact congrArg Except.ok map.ofList_entries

end QueryModel.Json
