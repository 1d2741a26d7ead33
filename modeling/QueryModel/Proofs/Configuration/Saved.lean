import QueryModel.Configuration.Directory
import QueryModel.Proofs.Configuration.Written
import QueryModel.Proofs.Outcome
import QueryModel.Proofs.Storage.Lasting

/-! # Saved configurations are loaded again

Main statement: where files keep what is written to them, a configuration that has been saved in a
directory is loaded from it. The empty path is that of no directory: a configuration can be saved
under it, and is not loaded from it.
-/

namespace QueryModel

namespace Storage

variable {σ ε α : Type}

theorem attempt_eq_ok {action : StateM σ (Except FileError α)} {state next : σ} {value : α}
    (haction : action.run state = (.ok value, next)) (toError : FileError → ε) :
    (attempt toError action).run.run state = (.ok value, next) := by
  change (action >>= _).run state = _
  rw [StateT.run_bind, haction]
  rfl

/-- What is attempted succeeds only if it is done. -/
theorem of_attempt_eq_ok {toError : FileError → ε} {action : StateM σ (Except FileError α)}
    {state next : σ} {value : α}
    (hrun : (attempt toError action).run.run state = (.ok value, next)) :
    action.run state = (.ok value, next) := by
  change (action >>= _).run state = _ at hrun
  rw [StateT.run_bind] at hrun
  generalize action.run state = outcome at hrun ⊢
  obtain ⟨outcome | middle, between⟩ := outcome
  · cases hrun
  · cases hrun
    rfl

end Storage

namespace ConfigurationFile

open Storage

variable {σ : Type} [Storage (StateM σ)]

theorem isPlain_fileName : Path.IsPlain fileName := ⟨by decide, by decide, by decide⟩

theorem isPlain_schemaFileName : Path.IsPlain schemaFileName := ⟨by decide, by decide, by decide⟩

/-- A configuration that has been saved was written, and then its schema beside it. -/
theorem exists_writes_of_save {file : ConfigurationFile} {directory : String} {state next : σ}
    (hsave : (file.save directory : ExceptT FileError (StateM σ) Unit).run.run state =
      (.ok (), next)) :
    ∃ made between, Writes made (Path.join directory fileName) file.write between ∧
      Writes between (Path.join directory schemaFileName) (fileText jsonSchema) next := by
  obtain ⟨⟨⟩, made, -, hwrites⟩ := ExceptT.exists_of_bind_eq_ok hsave
  obtain ⟨⟨⟩, between, hfile, hschema⟩ := ExceptT.exists_of_bind_eq_ok hwrites
  exact ⟨made, between, of_attempt_eq_ok hfile, of_attempt_eq_ok hschema⟩

/-- A directory that is there and holds a text that is read is loaded. -/
theorem load_eq {file : ConfigurationFile} {directory text : String} {state : σ}
    (hdirectory : Has state directory) (htext : Holds state (Path.join directory fileName) text)
    (hread : read text = .ok file) :
    (load directory : ExceptT ConfigurationError (StateM σ) ConfigurationFile).run.run state =
      (.ok file, state) := by
  rw [load, ExceptT.run_bind_eq (attempt_eq_ok hdirectory _), if_pos rfl]
  dsimp only
  rw [ExceptT.run_bind_eq (attempt_eq_ok htext _), hread]
  rfl

/-- A configuration that has been saved in a directory is loaded from it, and loading it changes
nothing. -/
theorem load_of_save [IsLasting σ] {file : ConfigurationFile} {directory : String} {state next : σ}
    (hdirectory : directory ≠ "")
    (hsave : (file.save directory : ExceptT FileError (StateM σ) Unit).run.run state =
      (.ok (), next)) :
    (load directory : ExceptT ConfigurationError (StateM σ) ConfigurationFile).run.run next =
      (.ok file, next) := by
  obtain ⟨made, between, hfile, hschema⟩ := exists_writes_of_save hsave
  have hwritten := IsLasting.holds_of_writes hfile
  have hheld := IsLasting.holds_of_writes_beside isPlain_fileName isPlain_schemaFileName
    (by decide) hwritten hschema
  have hhas := IsLasting.has_of_writes hdirectory isPlain_schemaFileName hschema
  exact load_eq hhas hheld (read_write file)

/-- A configuration with characters to escape in its names, and with names of fields for names. -/
def awkward : ConfigurationFile where
  schema := none
  dialect := .bigQuery
  negationStrategy := .distribute
  catalog :=
    ⟨.ofList [("metadata", ⟨"$schema", "a \"table\"\n", .ofList
      [("", ⟨"\\", .text, true⟩), ("columnName", ⟨"\u0001", .doublePrecision, false⟩)]⟩)]⟩

theorem load_of_save_awkward :
    let saved := (awkward.save "conf" : ExceptT FileError (StateM FileTree) Unit).run.run .empty
    "conf" ≠ "" ∧ saved.1 = .ok () ∧
      (load "conf" : ExceptT ConfigurationError (StateM FileTree) ConfigurationFile).run.run
        saved.2 = (.ok awkward, saved.2) := by
  intro saved
  have hdone : saved.1 = .ok () := rfl
  have hsave : saved = (.ok (), saved.2) := Prod.ext hdone rfl
  exact ⟨by decide, hdone, load_of_save (by decide) hsave⟩

/-- What is saved under the empty path goes into the working directory, and loading fails because
nothing is found at the path itself. -/
theorem not_forall_load_of_save :
    ¬∀ (σ : Type) [Storage (StateM σ)] [IsLasting σ] (file : ConfigurationFile) (directory : String)
      (state next : σ),
      (file.save directory : ExceptT FileError (StateM σ) Unit).run.run state = (.ok (), next) →
        (load directory : ExceptT ConfigurationError (StateM σ) ConfigurationFile).run.run next =
          (.ok file, next) := by
  intro hall
  let saved := (initial.save "" : ExceptT FileError (StateM FileTree) Unit).run.run .empty
  have hsave : saved = (.ok (), saved.2) := rfl
  have hmissing :
      (load "" : ExceptT ConfigurationError (StateM FileTree) ConfigurationFile).run.run saved.2 =
        (.error (.missingDirectory ""), saved.2) := rfl
  cases hmissing.symm.trans (hall FileTree initial "" .empty saved.2 hsave)

end ConfigurationFile

end QueryModel
