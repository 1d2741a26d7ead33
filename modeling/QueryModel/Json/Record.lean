import QueryModel.Json.Document
import QueryModel.SortedMap

/-! # Reading records and maps

Documents are read into records and maps in the order of the text, so that of several mistakes the
first one is reported, by its line. A record is an object in which each known name stands at most
once and unknown names are passed over; it may also be an array of the values in their order.
-/

namespace QueryModel.Json

/-- The line of the closing bracket, or the line at which reading fails. -/
def Ending.closing : Ending → Except Nat Nat
  | .closed line => .ok line
  | .broken readLine _ => .error readLine

/-- Whether an array or an object can be passed over to its end. -/
def Ending.skip : Ending → Except Nat Unit
  | .closed _ => .ok ()
  | .broken _ skipLine => .error skipLine

mutual

/-- Pass over a value. Nothing is asked of it but that it can be read to its end. -/
def Document.skip : Document → Except Nat Unit
  | .null _ => .ok ()
  | .boolean _ _ => .ok ()
  | .number _ _ => .ok ()
  | .string _ _ => .ok ()
  | .array _ items ending => do
    skipItems items
    ending.skip
  | .object _ members ending => do
    skipMembers members
    ending.skip
  | .cut place => .error place.skipLine
termination_by structural document => document

/-- Pass over the items of an array. -/
def skipItems : List Document → Except Nat Unit
  | [] => .ok ()
  | item :: rest => do
    item.skip
    skipItems rest
termination_by structural items => items

/-- Pass over the members of an object. -/
def skipMembers : List (Key × Document) → Except Nat Unit
  | [] => .ok ()
  | member :: rest => do
    skipMember member
    skipMembers rest
termination_by structural members => members

/-- Pass over a member. -/
def skipMember : Key × Document → Except Nat Unit
  | (_, document) => document.skip
termination_by structural member => member

end

/-- The line at which reading a value of the wrong kind fails. -/
def Document.wrongKind : Document → Nat
  | .cut place => place.readLine
  | document => document.line

/-- A record as it stands in a document. -/
structure Record where
  members : List (Key × Document)
  /-- The line of the closing bracket, or the line at which reading fails after the members. -/
  closing : Except Nat Nat

/-- The members of a document that is a record with the given names. -/
def Document.record (names : List String) : Document → Except Nat Record
  | .object _ members ending => .ok ⟨members, ending.closing⟩
  | .array _ items ending =>
    let members := names.zipWith (fun name item =>
      (⟨item.line, some name, item.line, none⟩, item)) items
    .ok ⟨members,
      match items.drop names.length with
      | [] => ending.closing
      | extra :: _ => .error extra.line⟩
  | document => .error document.wrongKind

/-- Read the members of a record in order, and then its end. -/
def Record.fold {σ : Type} (record : Record)
    (step : σ → Key → String → Document → Except Nat σ) (initial : σ) : Except Nat (σ × Nat) := do
  let final ← record.members.foldlM (fun state member =>
    match member.1.name with
    | none => .error member.1.line
    | some name => step state member.1 name member.2) initial
  let closing ← record.closing
  return (final, closing)

/-- Fill a field of a record, which must not have been filled before. -/
def fill {α : Type} (held : Option α) (key : Key) (read : Except Nat α) :
    Except Nat (Option α) :=
  match held with
  | some _ => .error key.nextLine
  | none => read.map some

/-- A field that a record has to have. -/
def require {α : Type} (held : Option α) (closing : Nat) : Except Nat α :=
  match held with
  | some value => .ok value
  | none => .error closing

/-- Read an object as a map, in which the last value of a name counts. -/
def Document.map {α : Type} (read : Document → Except Nat α) : Document → Except Nat (SortedMap α)
  | .object _ members ending => do
    let record : Record := ⟨members, ending.closing⟩
    let (map, _) ← record.fold (fun map _ name document => do
      return map.insert name (← read document)) SortedMap.empty
    return map
  | document => .error document.wrongKind

/-- Read a string. -/
def Document.text : Document → Except Nat String
  | .string line value =>
    match value with
    | some text => .ok text
    | none => .error line
  | document => .error document.wrongKind

/-- Read a value that may be null. -/
def Document.nullable {α : Type} (read : Document → Except Nat α) : Document → Except Nat (Option α)
  | .null _ => .ok none
  | document => (read document).map some

/-- Read a value that is a name among several, or an object with the name as its only member and
null as its value. A comma after that member is already too much. -/
def Document.choice {α : Type} (ofName? : String → Option α) : Document → Except Nat α
  | .string line value =>
    match value.bind ofName? with
    | some choice => .ok choice
    | none => .error line
  | .object _ [] ending => do
    .error (← ending.closing)
  | .object _ ((key, document) :: _) ending =>
    match key.name.bind ofName? with
    | none => .error key.line
    | some choice =>
      match document with
      | .null _ =>
        match key.commaLine with
        | none => ending.closing.map fun _ => choice
        | some line => .error line
      | document => .error document.wrongKind
  | .cut place => .error (if place.quoted then place.readLine else place.line)
  | document => .error document.line

end QueryModel.Json
