/-! # Maps sorted by name

Finite maps whose keys are strings and whose entries stand in increasing order of the keys, by code
point. The order belongs to the type, so whatever walks a map meets the names in that order.
-/

namespace QueryModel

namespace SortedMap

/-- Put a value at its place in a list of entries, replacing an entry of the same name. -/
def insertEntry {α : Type} (name : String) (value : α) : List (String × α) → List (String × α)
  | [] => [(name, value)]
  | (key, held) :: rest =>
    if name < key then (name, value) :: (key, held) :: rest
    else if name = key then (name, value) :: rest
    else (key, held) :: insertEntry name value rest

/-- The value of a name in a list of entries. -/
def lookupEntry {α : Type} (name : String) : List (String × α) → Option α
  | [] => none
  | (key, held) :: rest => if name = key then some held else lookupEntry name rest

theorem mem_keys_insertEntry {α : Type} {name key : String} {value : α}
    {entries : List (String × α)} :
    key ∈ (insertEntry name value entries).map Prod.fst ↔
      key = name ∨ key ∈ entries.map Prod.fst := by
  induction entries with
  | nil => simp [insertEntry]
  | cons entry rest ih =>
    obtain ⟨other, held⟩ := entry
    simp only [insertEntry]
    split
    · simp
    · split
      · next hname => subst hname; simp
      · simp only [List.map_cons, List.mem_cons, ih]
        exact or_left_comm

theorem sorted_insertEntry {α : Type} {name : String} {value : α} {entries : List (String × α)}
    (hsorted : (entries.map Prod.fst).Pairwise (· < ·)) :
    ((insertEntry name value entries).map Prod.fst).Pairwise (· < ·) := by
  induction entries with
  | nil => simp [insertEntry]
  | cons entry rest ih =>
    obtain ⟨other, held⟩ := entry
    simp only [List.map_cons, List.pairwise_cons] at hsorted
    simp only [insertEntry]
    split
    · next hless =>
      simp only [List.map_cons, List.pairwise_cons, List.mem_cons]
      refine ⟨?_, hsorted⟩
      rintro key (rfl | hmem)
      · exact hless
      · exact String.lt_trans hless (hsorted.1 key hmem)
    · next hless =>
      split
      · next hname => subst hname; simpa using hsorted
      · next hname =>
        simp only [List.map_cons, List.pairwise_cons]
        refine ⟨?_, ih hsorted.2⟩
        intro key hmem
        rcases mem_keys_insertEntry.mp hmem with rfl | hrest
        · exact Std.lt_of_le_of_ne (String.not_lt.mp hless) (Ne.symm hname)
        · exact hsorted.1 key hrest

end SortedMap

/-- A finite map from names to values, its entries in increasing order of the names. -/
structure SortedMap (α : Type) where
  /-- The names with their values. -/
  entries : List (String × α)
  /-- Every name stands once, and in order. -/
  sorted : (entries.map Prod.fst).Pairwise (· < ·)
deriving DecidableEq

namespace SortedMap

/-- The map without entries. -/
def empty {α : Type} : SortedMap α := ⟨[], by simp⟩

instance {α : Type} : EmptyCollection (SortedMap α) := ⟨empty⟩
instance {α : Type} : Inhabited (SortedMap α) := ⟨empty⟩

/-- The map with `name` bound to `value`, whatever it was bound to before. -/
def insert {α : Type} (map : SortedMap α) (name : String) (value : α) : SortedMap α :=
  ⟨insertEntry name value map.entries, sorted_insertEntry map.sorted⟩

/-- The map of a list of bindings, where a later binding of a name replaces an earlier one. -/
def ofList {α : Type} (bindings : List (String × α)) : SortedMap α :=
  bindings.foldl (fun map binding => map.insert binding.1 binding.2) empty

/-- The value of a name, if it has one. -/
def get? {α : Type} (map : SortedMap α) (name : String) : Option α :=
  lookupEntry name map.entries

/-- Whether a name has a value. -/
def contains {α : Type} (map : SortedMap α) (name : String) : Bool :=
  (map.get? name).isSome

/-- The names, in increasing order. -/
def keys {α : Type} (map : SortedMap α) : List String :=
  map.entries.map Prod.fst

/-- The number of names. -/
def size {α : Type} (map : SortedMap α) : Nat := map.entries.length

/-- Whether no name has a value. -/
def isEmpty {α : Type} (map : SortedMap α) : Bool := map.entries.isEmpty

private theorem lookupEntry_insertEntry_self {α : Type} (name : String) (value : α)
    (entries : List (String × α)) :
    lookupEntry name (insertEntry name value entries) = some value := by
  induction entries with
  | nil => simp [insertEntry, lookupEntry]
  | cons entry rest ih =>
    obtain ⟨key, held⟩ := entry
    simp only [insertEntry]
    split
    · simp [lookupEntry]
    · split
      · simp [lookupEntry]
      · next hname => simp [lookupEntry, hname, ih]

private theorem lookupEntry_insertEntry_of_ne {α : Type} {name other : String} (value : α)
    (hne : other ≠ name) (entries : List (String × α)) :
    lookupEntry other (insertEntry name value entries) = lookupEntry other entries := by
  induction entries with
  | nil => simp [insertEntry, lookupEntry, hne]
  | cons entry rest ih =>
    obtain ⟨key, held⟩ := entry
    simp only [insertEntry]
    split
    · simp [lookupEntry, hne]
    · split
      · next hname => subst hname; simp [lookupEntry, hne]
      · simp [lookupEntry, ih]

@[simp]
theorem get?_empty {α : Type} (name : String) : (empty : SortedMap α).get? name = none := rfl

@[simp]
theorem get?_insert_self {α : Type} (map : SortedMap α) (name : String) (value : α) :
    (map.insert name value).get? name = some value :=
  lookupEntry_insertEntry_self name value map.entries

theorem get?_insert_of_ne {α : Type} (map : SortedMap α) {name other : String} (value : α)
    (hne : other ≠ name) : (map.insert name value).get? other = map.get? other :=
  lookupEntry_insertEntry_of_ne value hne map.entries

theorem mem_keys_insert {α : Type} (map : SortedMap α) {name key : String} {value : α} :
    key ∈ (map.insert name value).keys ↔ key = name ∨ key ∈ map.keys :=
  mem_keys_insertEntry

end SortedMap

end QueryModel
