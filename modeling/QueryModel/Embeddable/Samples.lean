import QueryModel.Embeddable.Registry

/-! # Sample types

Some embeddable types: amounts of money, flags and addresses.
-/

namespace QueryModel

/-- An amount of money. -/
structure MonetaryAmount where
  amount : Int
  currency : String
deriving DecidableEq

namespace MonetaryAmount

/-- The properties that have been read. -/
structure Fields where
  amount : Option Int
  currency : Option String

/-- Read a property. -/
def Fields.read (fields : Fields) (name : String) (value : Json) : Except PropertyError Fields :=
  match name with
  | "amount" => do return { fields with amount := some (← Property.word value) }
  | "currency" => do return { fields with currency := some (← Property.text value) }
  | _ => .ok fields

/-- Make an amount of its properties. -/
def ofProperties (properties : Properties) : Except PropertyError MonetaryAmount := do
  let fields ← properties.fold Fields.read ⟨none, none⟩
  return {
    amount := ← Property.require "amount" fields.amount
    currency := ← Property.require "currency" fields.currency }

end MonetaryAmount

/-- Flags with a level, which is zero unless it is given, and perhaps a note. -/
structure Flags where
  enabled : Bool
  level : Nat
  note : Option String
deriving DecidableEq

namespace Flags

/-- The properties that have been read. -/
structure Fields where
  enabled : Option Bool
  level : Option Nat
  note : Option (Option String)

/-- Read a property. -/
def Fields.read (fields : Fields) (name : String) (value : Json) : Except PropertyError Fields :=
  match name with
  | "enabled" => do return { fields with enabled := some (← Property.truth value) }
  | "level" => do return { fields with level := some (← Property.byte value) }
  | "note" => do return { fields with note := some (← Property.nullable Property.text value) }
  | _ => .ok fields

/-- Make flags of their properties. -/
def ofProperties (properties : Properties) : Except PropertyError Flags := do
  let fields ← properties.fold Fields.read ⟨none, none, none⟩
  return {
    enabled := ← Property.require "enabled" fields.enabled
    level := fields.level.getD 0
    note := fields.note.getD none }

end Flags

/-- An address. -/
structure Address where
  street : String
deriving DecidableEq

/-- Make an address of its properties. -/
def Address.ofProperties (properties : Properties) : Except PropertyError Address :=
  match properties.get? "street" with
  | some (.string street) => .ok ⟨street⟩
  | _ => .error (.refused "street is required")

/-- An object of one of the types. -/
inductive Sample where
  | monetaryAmount (object : MonetaryAmount)
  | flags (object : Flags)
  | address (object : Address)
deriving DecidableEq

/-- One of the types. -/
inductive SampleType where
  | monetaryAmount
  | flags
  | address
deriving DecidableEq

namespace SampleType

/-- The name of a type. -/
def name : SampleType → String
  | .monetaryAmount => "MonetaryAmount"
  | .flags => "Flags"
  | .address => "Address"

/-- The type of a name. -/
def ofName? (name : String) : Option SampleType :=
  [SampleType.monetaryAmount, .flags, .address].find? fun type => type.name == name

/-- How the objects of a type are made. -/
def instantiator : SampleType → Instantiator Sample
  | .monetaryAmount =>
    .concreteType fun properties => (MonetaryAmount.ofProperties properties).map .monetaryAmount
  | .flags => .concreteType fun properties => (Flags.ofProperties properties).map .flags
  | .address => .concreteType fun properties => (Address.ofProperties properties).map .address

end SampleType

/-- The type of an object. -/
def Sample.type : Sample → SampleType
  | .monetaryAmount _ => .monetaryAmount
  | .flags _ => .flags
  | .address _ => .address

/-- An object as one of a type, if it is one. -/
def Sample.as? (type : SampleType) (object : Sample) : Option Sample :=
  if object.type = type then some object else none

end QueryModel
