import QueryModel.SortedMap

/-! # The first entry of a map

The names of a map stand in increasing order, so what is found first in a walk over its entries is
found at the least name. Main statement: a search among the entries finds what the least name with a
result has to offer.
-/

namespace QueryModel.SortedMap

variable {α β : Type}

theorem lookupEntry_eq_some_iff {name : String} {value : α} {entries : List (String × α)}
    (hsorted : (entries.map Prod.fst).Pairwise (· < ·)) :
    lookupEntry name entries = some value ↔ (name, value) ∈ entries := by
  induction entries with
  | nil => simp [lookupEntry]
  | cons entry rest ih =>
    obtain ⟨key, held⟩ := entry
    obtain ⟨hbefore, hrest⟩ := List.pairwise_cons.mp hsorted
    rw [lookupEntry, List.mem_cons, Prod.mk.injEq]
    split
    · next hname =>
      subst hname
      have habsent : (name, value) ∉ rest := fun hmem =>
        String.lt_irrefl name (hbefore name (List.mem_map_of_mem hmem))
      rw [Option.some.injEq, eq_comm, or_iff_left habsent, eq_self, true_and]
    · next hname => rw [ih hrest, or_iff_right fun hsame => hname hsame.1]

theorem mem_entries_iff (map : SortedMap α) {name : String} {value : α} :
    (name, value) ∈ map.entries ↔ map.get? name = some value :=
  (lookupEntry_eq_some_iff map.sorted).symm

theorem isEmpty_iff (map : SortedMap α) : map.isEmpty ↔ ∀ name, map.get? name = none := by
  rw [isEmpty, List.isEmpty_iff, List.eq_nil_iff_forall_not_mem]
  constructor
  · intro hnone name
    exact Option.eq_none_iff_forall_ne_some.mpr fun value hvalue =>
      hnone (name, value) (map.mem_entries_iff.mpr hvalue)
  · rintro hnone ⟨name, value⟩ hmem
    cases (hnone name).symm.trans (map.mem_entries_iff.mp hmem)

section search

variable (map : SortedMap α) {search : String × α → Option β}

theorem findSome?_entries_eq_none_iff :
    map.entries.findSome? search = none ↔
      ∀ name value, map.get? name = some value → search (name, value) = none := by
  simp only [List.findSome?_eq_none_iff, Prod.forall, map.mem_entries_iff]

/-- What is found among the entries is found at the least name where anything is found. -/
theorem findSome?_entries_eq_some_iff {found : β} :
    map.entries.findSome? search = some found ↔
      ∃ name value, map.get? name = some value ∧ search (name, value) = some found ∧
        ∀ other < name, ∀ held, map.get? other = some held → search (other, held) = none := by
  have hkeys := List.pairwise_map.mp map.sorted
  constructor
  · intro hfound
    obtain ⟨before, ⟨name, value⟩, behind, hentries, hvalue, hnone⟩ :=
      List.findSome?_eq_some_iff.mp hfound
    have hmem : (name, value) ∈ map.entries := hentries ▸ List.mem_append_right _ List.mem_cons_self
    refine ⟨name, value, map.mem_entries_iff.mp hmem, hvalue, fun other hless held hheld => ?_⟩
    -- an entry with a smaller name does not stand behind the one that was found
    rw [← map.mem_entries_iff, hentries, List.mem_append, List.mem_cons] at hheld
    rw [hentries, List.pairwise_append, List.pairwise_cons] at hkeys
    obtain hmem | hsame | hmem := hheld
    · exact hnone _ hmem
    · cases hsame
      exact (String.lt_irrefl _ hless).elim
    · exact (String.lt_irrefl _ (String.lt_trans hless (hkeys.2.1.1 _ hmem))).elim
  · rintro ⟨name, value, hname, hvalue, hleast⟩
    obtain ⟨before, behind, hentries⟩ := List.append_of_mem (map.mem_entries_iff.mpr hname)
    refine List.findSome?_eq_some_iff.mpr
      ⟨before, (name, value), behind, hentries, hvalue, fun ⟨other, held⟩ hmem => ?_⟩
    rw [hentries, List.pairwise_append] at hkeys
    have hother : (other, held) ∈ map.entries := hentries ▸ List.mem_append_left _ hmem
    exact hleast other (hkeys.2.2 _ hmem _ List.mem_cons_self) held (map.mem_entries_iff.mp hother)

/-- The entry that is found among all that meet a condition has the least name of them. -/
theorem find?_entries_eq_some_iff {condition : String × α → Bool} {name : String} {value : α} :
    map.entries.find? condition = some (name, value) ↔
      map.get? name = some value ∧ condition (name, value) = true ∧
        ∀ other < name, ∀ held, map.get? other = some held → condition (other, held) = false := by
  rw [List.find?_eq_findSome?_guard, findSome?_entries_eq_some_iff]
  simp only [Option.guard_eq_some_iff, Option.guard_eq_none_iff]
  constructor
  · rintro ⟨_, _, hname, ⟨⟨⟩, hcondition⟩, hleast⟩
    exact ⟨hname, hcondition, hleast⟩
  · rintro ⟨hname, hcondition, hleast⟩
    exact ⟨name, value, hname, ⟨rfl, hcondition⟩, hleast⟩

end search

end QueryModel.SortedMap
