import QueryModel.Proofs.Json.Records
import QueryModel.Proofs.Request.Parts

/-! # Written requests are read back

A request that has been read is written as a text that is read as the same request.
-/

namespace QueryModel.Request

open Json

/-! ## What has been read -/

theorem exists_of_readPredicate {document : Document} {condition : Condition}
    (hread : readPredicate document = .ok (some condition)) :
    ∃ value, document.value? (depthLimit - 1) = some value ∧
      condition? depthLimit false value = some condition := by
  unfold readPredicate at hread
  cases hvalue : document.value? (depthLimit - 1) with
  | none =>
    rw [hvalue] at hread
    cases hread
  | some value =>
    rw [hvalue] at hread
    split at hread
    · cases hread
    · cases hread
    · next taken _ hsame =>
      cases hsame
      split at hread
      · cases hread
      · next known hknown =>
        cases hread
        exact ⟨value, rfl, hknown⟩

/-- The condition among the fields of a request, if there is one, has been read. -/
def Fields.HasRead (fields : Fields) : Prop :=
  ∀ condition, fields.predicate = some (some condition) →
    ∃ document, readPredicate document = .ok (some condition)

theorem Fields.HasRead.read {fields next : Fields} {key : Key} {name : String}
    {document : Document} (hstep : fields.read key name document = .ok next)
    (hfields : fields.HasRead) : next.HasRead := by
  unfold Fields.read at hstep
  split at hstep
  · obtain ⟨entity, -, ⟨⟩⟩ := Except.bind_eq_ok.mp hstep
    exact hfields
  · obtain ⟨aliasName, -, ⟨⟩⟩ := Except.bind_eq_ok.mp hstep
    exact hfields
  · obtain ⟨predicate, hpredicate, ⟨⟩⟩ := Except.bind_eq_ok.mp hstep
    rintro condition rfl
    exact ⟨document, of_fill_eq_ok hpredicate⟩
  · obtain ⟨⟨⟩, -, ⟨⟩⟩ := Except.bind_eq_ok.mp hstep
    exact hfields

/-- The condition of a request that has been read from a document. -/
theorem exists_readPredicate {document : Document} {request : Request} {condition : Condition}
    (hread : ofDocument document = .ok request) (hcondition : request.predicate = some condition) :
    ∃ document, readPredicate document = .ok (some condition) := by
  obtain ⟨record, -, hread⟩ := Except.bind_eq_ok.mp hread
  obtain ⟨⟨fields, closing⟩, hfold, hread⟩ := Except.bind_eq_ok.mp hread
  obtain ⟨entity, -, hread⟩ := Except.bind_eq_ok.mp hread
  obtain ⟨aliasName, -, ⟨⟩⟩ := Except.bind_eq_ok.mp hread
  have hfields : fields.HasRead := Record.fold_induction hfold nofun
    fun state key name document next hstep hstate => hstate.read hstep
  refine hfields condition ?_
  cases hpredicate : fields.predicate with
  | none =>
    rw [hpredicate] at hcondition
    cases hcondition
  | some predicate =>
    rw [hpredicate] at hcondition
    exact congrArg some hcondition

/-- The condition of a request that has been read is read back from what is written for it. -/
theorem condition_isReadBack_of_read? {text : String} {request : Request} {condition : Condition}
    (hread : read? text = some request) (hcondition : request.predicate = some condition) :
    IsReadBack (condition? depthLimit false) Number.IsInRange (depthLimit - 1) condition
      condition.toJson := by
  unfold read? at hread
  dsimp only at hread
  split at hread
  · next known hdocument _ =>
    cases hread
    obtain ⟨document, hpredicate⟩ := exists_readPredicate hdocument hcondition
    obtain ⟨value, hvalue, hknown⟩ := exists_of_readPredicate hpredicate
    exact condition_isReadBack hknown (document.isWithin_of_value? hvalue) false
  · cases hread

/-! ## What is written -/

section written

variable {document : Document}

/-- Conditions are written as objects. -/
theorem Condition.exists_toJson_eq (condition : Condition) :
    ∃ members, condition.toJson = .object members := by
  cases condition <;> exact ⟨_, rfl⟩

theorem readPredicate_eq {condition : Condition}
    (hback : IsReadBack (condition? depthLimit false) Number.IsReadBack (depthLimit - 1) condition
      condition.toJson)
    (hdocument : document.Holds condition.toJson) :
    readPredicate document = .ok (some condition) := by
  obtain ⟨members, hobject⟩ := condition.exists_toJson_eq
  rw [readPredicate, hdocument.value?_eq hback.isWithin, hobject]
  dsimp only
  rw [← hobject, hback.read_eq]

theorem ofDocument_eq {request : Request}
    (hback : ∀ condition, request.predicate = some condition →
      IsReadBack (condition? depthLimit false) Number.IsReadBack (depthLimit - 1) condition
        condition.toJson)
    (hdocument : document.Holds request.toJson) : ofDocument document = .ok request := by
  obtain ⟨entity, aliasName, predicate⟩ := request
  obtain ⟨documents, closing, hdocuments, hrecord⟩ := hdocument.exists_record_eq
  have hentity : Takes Fields.read ⟨none, none, none⟩ "entity" (.string entity)
      ⟨some entity, none, none⟩ := fun key document hheld => by
    simp only [Fields.read, fill_none hheld.text_eq]
    rfl
  have halias : Takes Fields.read ⟨some entity, none, none⟩ "alias" (.string aliasName)
      ⟨some entity, some aliasName, none⟩ := fun key document hheld => by
    simp only [Fields.read, fill_none hheld.text_eq]
    rfl
  cases predicate with
  | none =>
    have hfold := Record.fold_eq hdocuments (.cons hentity (.cons halias .nil)) closing
    simp only [ofDocument, hrecord, bind, Except.bind, hfold]
    rfl
  | some condition =>
    have hpredicate : Takes Fields.read ⟨some entity, some aliasName, none⟩ "predicate"
        condition.toJson ⟨some entity, some aliasName, some (some condition)⟩ :=
      fun key document hheld => by
        simp only [Fields.read, fill_none (readPredicate_eq (hback condition rfl) hheld)]
        rfl
    have hfold := Record.fold_eq hdocuments
      (.cons hentity (.cons halias (.cons hpredicate .nil))) closing
    simp only [ofDocument, hrecord, bind, Except.bind, hfold]
    rfl

end written

/-- A request whose condition is read back is read back. -/
theorem read?_write_of_isReadBack {request : Request}
    (hback : ∀ condition, request.predicate = some condition →
      IsReadBack (condition? depthLimit false) Number.IsReadBack (depthLimit - 1) condition
        condition.toJson) :
    read? request.write = some request := by
  obtain ⟨document, hdocument, hread⟩ := exists_read_eq (spelled_compact request.toJson)
  rw [read?, write, hread]
  dsimp only
  rw [ofDocument_eq hback hdocument]

/-- Writing undoes reading, and reading undoes writing: a request that has been read from a text is
read from the text that is written for it, which is then written again letter by letter. The digits
of floating point numbers have to be read as the nearest magnitude. -/
theorem read?_write {text : String} {request : Request} (hread : read? text = some request)
    (hnearest : ∀ x, .float x ∈ request.toJson.numbers → ReadsNearest x) :
    read? request.write = some request ∧
      (read? request.write).map write = some request.write := by
  have hagain : read? request.write = some request := by
    refine read?_write_of_isReadBack fun condition hcondition => ?_
    have hback := condition_isReadBack_of_read? hread hcondition
    refine ⟨hback.read_eq, hback.isWithin.strengthen fun number hnumber hrange => ?_⟩
    refine Number.isReadBack hrange fun x hx => hnearest x ?_
    rw [toJson, hcondition, numbers_object]
    simpa [numbers] using hx ▸ hnumber
  exact ⟨hagain, congrArg (Option.map write) hagain⟩

/-- 10²⁰, which is written with an exponent. -/
def largeNumber : Binary64.Finite :=
  ⟨false, Nat.pow 10 20 * Binary64.one, by decide +kernel⟩

theorem readsNearest_largeNumber : ReadsNearest largeNumber := by
  have hdecimal : Binary64.decimal? (Binary64.magnitudeText layout largeNumber.units) =
      some ⟨1, 20⟩ := by decide +kernel
  have hfloat : float? false (Binary64.magnitudeText layout largeNumber.units) =
      some largeNumber := by decide +kernel
  rintro decimal hsame -
  cases hdecimal.symm.trans hsame
  exact ⟨largeNumber, hfloat, rfl, by decide +kernel⟩

/-- A request with tags behind the other members, with kinds by their places, with a condition that
is an array in which the mark is left out, with a member that is not known, and with a scalar that is
not in canonical form. -/
def reordered : String :=
  "\x7b\"predicate\":\x7b\"expression\":[4,\x7b\"values\":[\x7b\"value\":\x7b" ++
  "\"b\":1e20,\"a\":-1\x7d,\"type\":1\x7d],\"type\":3\x7d],\"type\":\"not\"\x7d," ++
  "\"x\":[],\"entity\":\"\",\"alias\":\"u\"\x7d"

theorem read?_write_reordered :
    ∃ request, read? reordered = some request ∧
      (∀ x, .float x ∈ request.toJson.numbers → ReadsNearest x) ∧
        read? request.write = some request ∧
          (read? request.write).map write = some request.write := by
  have hnumbers : (read? reordered).map (fun request => request.toJson.numbers) =
      some [.integer (-1), .float largeNumber] := by decide +kernel
  obtain ⟨request, hread, hsame⟩ := Option.map_eq_some_iff.mp hnumbers
  have hnearest : ∀ x, .float x ∈ request.toJson.numbers → ReadsNearest x := by
    rw [hsame]
    intro x hx
    obtain rfl : x = largeNumber := by simpa using hx
    exact readsNearest_largeNumber
  exact ⟨request, hread, hnearest, read?_write hread hnearest⟩

end QueryModel.Request
