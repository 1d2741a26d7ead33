import QueryModel.Json.Basic

/-! # What is in a JSON value

How deep the arrays and objects of a value are nested, and which numbers occur in it. The canonical
form of a value has no more in it than the value, and is its own canonical form.
-/

namespace QueryModel

namespace SortedMap

variable {α : Type}

theorem insertEntry_of_forall_lt {name : String} {value : α} {entries : List (String × α)}
    (hless : ∀ entry ∈ entries, entry.1 < name) :
    insertEntry name value entries = entries ++ [(name, value)] := by
  induction entries with
  | nil => rfl
  | cons entry rest ih =>
    obtain ⟨hfirst, hrest⟩ := List.forall_mem_cons.mp hless
    have hnot : ¬ name < entry.1 := String.lt_asymm hfirst
    have hne : name ≠ entry.1 := (String.ne_of_lt hfirst).symm
    simp only [insertEntry, hnot, hne, if_false, ih hrest, List.cons_append]

/-- Entries that follow those of a map are put behind them. -/
theorem entries_foldl_insert (map : SortedMap α) {entries : List (String × α)}
    (hsorted : ((map.entries ++ entries).map Prod.fst).Pairwise (· < ·)) :
    (entries.foldl (fun map entry => map.insert entry.1 entry.2) map).entries =
      map.entries ++ entries := by
  induction entries generalizing map with
  | nil => exact (List.append_nil _).symm
  | cons entry rest ih =>
    have hinsert : (map.insert entry.1 entry.2).entries = map.entries ++ [entry] := by
      refine insertEntry_of_forall_lt fun other hother => ?_
      rw [List.map_append, List.pairwise_append] at hsorted
      exact hsorted.2.2 _ (List.mem_map_of_mem hother) _ (List.mem_cons_self ..)
    rw [List.foldl_cons, ih, hinsert, List.append_assoc, List.singleton_append]
    rw [hinsert, List.append_assoc, List.singleton_append]
    exact hsorted

theorem eq_of_entries_eq {left right : SortedMap α} (hsame : left.entries = right.entries) :
    left = right := by
  cases left
  cases right
  cases hsame
  rfl

/-- A map is the map of its entries. -/
theorem ofList_entries (map : SortedMap α) : ofList map.entries = map :=
  eq_of_entries_eq (entries_foldl_insert empty map.sorted)

theorem mem_of_mem_insertEntry {name : String} {value : α} {entries : List (String × α)}
    {entry : String × α} (hentry : entry ∈ insertEntry name value entries) :
    entry = (name, value) ∨ entry ∈ entries := by
  induction entries with
  | nil => exact Or.inl (List.mem_singleton.mp hentry)
  | cons first rest ih => grind [insertEntry]

/-- Every entry of a map is one of the bindings that the map is made of. -/
theorem mem_of_mem_ofList {bindings : List (String × α)} {entry : String × α}
    (hentry : entry ∈ (ofList bindings).entries) : entry ∈ bindings := by
  have hfold (map : SortedMap α) (bindings : List (String × α)) :
      ∀ entry ∈ (bindings.foldl (fun map binding => map.insert binding.1 binding.2) map).entries,
        entry ∈ map.entries ∨ entry ∈ bindings := by
    induction bindings generalizing map with
    | nil => exact fun entry hentry => Or.inl hentry
    | cons binding rest ih =>
      intro entry hentry
      rcases ih _ entry hentry with hmap | hrest
      · rcases mem_of_mem_insertEntry hmap with rfl | hmap
        · exact Or.inr (List.mem_cons_self ..)
        · exact Or.inl hmap
      · exact Or.inr (List.mem_cons_of_mem _ hrest)
  exact (hfold empty bindings entry hentry).resolve_left (List.not_mem_nil ·)

end SortedMap

namespace Json

/-! ## Canonical forms -/

theorem canonicalItems_eq (items : List Json) : canonicalItems items = items.map canonical := by
  induction items with
  | nil => rfl
  | cons item rest ih => rw [canonicalItems, ih, List.map_cons]

theorem canonicalMembers_eq (members : List (String × Json)) :
    canonicalMembers members = members.map fun member => (member.1, member.2.canonical) := by
  induction members with
  | nil => rfl
  | cons member rest ih =>
    obtain ⟨name, value⟩ := member
    rw [canonicalMembers, ih, canonicalMember, List.map_cons]

/-- Every entry of a canonical object is a member with a canonical value. -/
theorem exists_of_mem_canonical {members : List (String × Json)} {entry : String × Json}
    (hentry : entry ∈ (SortedMap.ofList (canonicalMembers members)).entries) :
    ∃ member ∈ members, entry = (member.1, member.2.canonical) := by
  have hmem := SortedMap.mem_of_mem_ofList hentry
  rw [canonicalMembers_eq, List.mem_map] at hmem
  obtain ⟨member, hmember, rfl⟩ := hmem
  exact ⟨member, hmember, rfl⟩

/-! ## Depth and numbers -/

/-- `value.IsWithin property depth`: the arrays and objects of the value are nested at most `depth`
deep, and its numbers have the property. -/
inductive IsWithin (property : Number → Prop) : Nat → Json → Prop
  | null {depth : Nat} : IsWithin property depth .null
  | boolean {depth : Nat} (value : Bool) : IsWithin property depth (.boolean value)
  | number {depth : Nat} {value : Number} (hvalue : property value) :
      IsWithin property depth (.number value)
  | string {depth : Nat} (value : String) : IsWithin property depth (.string value)
  | array {depth : Nat} {items : List Json}
      (hitems : ∀ item ∈ items, IsWithin property depth item) :
      IsWithin property (depth + 1) (.array items)
  | object {depth : Nat} {members : List (String × Json)}
      (hmembers : ∀ member ∈ members, IsWithin property depth member.2) :
      IsWithin property (depth + 1) (.object members)

mutual

/-- The numbers in a value. -/
def numbers : Json → List Number
  | .null => []
  | .boolean _ => []
  | .number value => [value]
  | .string _ => []
  | .array items => itemNumbers items
  | .object members => memberNumbers members
termination_by structural value => value

/-- The numbers in the items of an array. -/
def itemNumbers : List Json → List Number
  | [] => []
  | item :: rest => item.numbers ++ itemNumbers rest
termination_by structural items => items

/-- The numbers in the members of an object. -/
def memberNumbers : List (String × Json) → List Number
  | [] => []
  | member :: rest => valueNumbers member ++ memberNumbers rest
termination_by structural members => members

/-- The numbers in the value of a member. -/
def valueNumbers : String × Json → List Number
  | (_, value) => value.numbers
termination_by structural member => member

end

theorem numbers_array (items : List Json) : (Json.array items).numbers = items.flatMap numbers := by
  rw [numbers]
  induction items with
  | nil => rfl
  | cons item rest ih => rw [itemNumbers, ih, List.flatMap_cons]

theorem numbers_object (members : List (String × Json)) :
    (Json.object members).numbers = members.flatMap fun member => member.2.numbers := by
  rw [numbers]
  induction members with
  | nil => rfl
  | cons member rest ih => rw [memberNumbers, ih, List.flatMap_cons, valueNumbers]

namespace IsWithin

variable {property : Number → Prop} {depth : Nat} {value : Json}

/-- What is known of every number in a value can be added to what all of them have. -/
theorem strengthen (hvalue : value.IsWithin property depth) {stronger : Number → Prop}
    (hstronger : ∀ number ∈ value.numbers, property number → stronger number) :
    value.IsWithin stronger depth := by
  induction hvalue with
  | null => exact .null
  | boolean value => exact .boolean value
  | number hvalue => exact .number (hstronger _ (List.mem_singleton_self _) hvalue)
  | string value => exact .string value
  | array _ ih =>
    rw [numbers_array] at hstronger
    exact .array fun item hitem => ih item hitem fun number hnumber =>
      hstronger number (List.mem_flatMap_of_mem hitem hnumber)
  | object _ ih =>
    rw [numbers_object] at hstronger
    exact .object fun member hmember => ih member hmember fun number hnumber =>
      hstronger number (List.mem_flatMap_of_mem hmember hnumber)

/-- No array and no object is nested less than once deep. -/
theorem exists_depth_of_array {items : List Json}
    (hvalue : (Json.array items).IsWithin property depth) :
    ∃ inner, depth = inner + 1 ∧ ∀ item ∈ items, item.IsWithin property inner := by
  cases hvalue with
  | array hitems => exact ⟨_, rfl, hitems⟩

theorem exists_depth_of_object {members : List (String × Json)}
    (hvalue : (Json.object members).IsWithin property depth) :
    ∃ inner, depth = inner + 1 ∧ ∀ member ∈ members, member.2.IsWithin property inner := by
  cases hvalue with
  | object hmembers => exact ⟨_, rfl, hmembers⟩

protected theorem canonical (hvalue : value.IsWithin property depth) :
    value.canonical.IsWithin property depth := by
  induction hvalue with
  | null => exact .null
  | boolean value => exact .boolean value
  | number hvalue => exact .number hvalue
  | string value => exact .string value
  | array _ ih =>
    rw [Json.canonical, canonicalItems_eq]
    exact .array (List.forall_mem_map.mpr ih)
  | object _ ih =>
    rw [Json.canonical]
    refine .object fun entry hentry => ?_
    obtain ⟨member, hmember, rfl⟩ := exists_of_mem_canonical hentry
    exact ih member hmember

/-- A canonical form is its own canonical form. -/
theorem canonical_canonical (hvalue : value.IsWithin property depth) :
    value.canonical.canonical = value.canonical := by
  induction hvalue with
  | null => rfl
  | boolean value => rfl
  | number hvalue => rfl
  | string value => rfl
  | array _ ih =>
    simp only [Json.canonical, canonicalItems_eq, List.map_map, Function.comp_def]
    rw [List.map_congr_left ih]
  | object _ ih =>
    have hentries (entries : List (String × Json))
        (hsame : ∀ entry ∈ entries, entry.2.canonical = entry.2) :
        canonicalMembers entries = entries := by
      have hmap : entries.map (fun entry => (entry.1, entry.2.canonical)) = entries.map id :=
        List.map_congr_left fun entry hentry => Prod.ext rfl (hsame entry hentry)
      rw [canonicalMembers_eq, hmap, List.map_id]
    rw [Json.canonical, Json.canonical, hentries, SortedMap.ofList_entries]
    intro entry hentry
    obtain ⟨member, hmember, rfl⟩ := exists_of_mem_canonical hentry
    exact ih member hmember

end IsWithin

end Json

end QueryModel
