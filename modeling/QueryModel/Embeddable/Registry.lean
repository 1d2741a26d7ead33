import QueryModel.Embeddable.Property

/-! # Registries of embeddable types

Embeddable types by name, each with the way its objects are made of the values of their properties.
Types that are abstract have no objects.
-/

namespace QueryModel

/-- How the objects of a type are made. -/
inductive Instantiator (α : Type) where
  /-- The type has no objects. -/
  | abstractType
  | concreteType (make : Properties → Except PropertyError α)

/-- Why there is no object. -/
inductive InstantiationFailure where
  | abstractType
  | noConstructor
  | failed (cause : PropertyError)
  /-- The object is not of the type that was asked for. -/
  | unexpectedType

/-- Why there is no object of a type. -/
structure InstantiationError where
  typeName : String
  failure : InstantiationFailure

/-- The message of an instantiation error. -/
def InstantiationError.message (error : InstantiationError) : String :=
  match error.failure with
  | .abstractType => "cannot instantiate abstract type: " ++ error.typeName
  | .noConstructor => "no constructor registered for embeddable: " ++ error.typeName
  | .failed cause =>
    "could not instantiate embeddable " ++ error.typeName ++ ": " ++ cause.message
  | .unexpectedType => "instance of " ++ error.typeName ++ " is not of the requested type"

/-- Types by name, with the way their objects are made. -/
structure Registry (α : Type) where
  instantiators : SortedMap (Instantiator α)

namespace Registry

variable {α : Type}

/-- The registry without types. -/
def empty : Registry α := ⟨∅⟩

/-- The registry with a type, whatever was registered under its name before. -/
def register (registry : Registry α) (typeName : String) (instantiator : Instantiator α) :
    Registry α :=
  ⟨registry.instantiators.insert typeName instantiator⟩

/-- Whether a type is registered. -/
def contains (registry : Registry α) (typeName : String) : Bool :=
  registry.instantiators.contains typeName

/-- An object of a registered type. -/
def instantiate (registry : Registry α) (typeName : String) (properties : Properties) :
    Except InstantiationError α :=
  match registry.instantiators.get? typeName with
  | none => .error ⟨typeName, .noConstructor⟩
  | some .abstractType => .error ⟨typeName, .abstractType⟩
  | some (.concreteType make) =>
    (make properties).mapError fun cause => ⟨typeName, .failed cause⟩

/-- An object of a registered type, seen as one of the type that is asked for. -/
def instantiateAs {β : Type} (registry : Registry α) (view? : α → Option β) (typeName : String)
    (properties : Properties) : Except InstantiationError β := do
  let object ← registry.instantiate typeName properties
  match view? object with
  | some object => return object
  | none => .error ⟨typeName, .unexpectedType⟩

/-- The names of the registered types in braces, in their order. -/
def text (registry : Registry α) : String :=
  String.singleton '\x7b' ++
    String.intercalate ", " (registry.instantiators.keys.map Text.escaped) ++
    String.singleton '\x7d'

end Registry

end QueryModel
