import QueryModel.Storage.Path

/-! # Paths of names in directories

The names in the path of a plain name in a directory are those on the way to the directory, and then
the plain name, however many slashes the path of the directory ends in.
-/

namespace QueryModel.Path

/-- A name that leads from a directory to something in it. -/
structure IsPlain (name : String) : Prop where
  ne_idle : isIdle name = false
  ne_up : name ≠ ".."
  ne_slash : '/' ∉ name.toList

theorem splitNames_ne_nil (text : List Char) : splitNames text ≠ [] := by
  cases text with
  | nil => exact List.cons_ne_nil _ _
  | cons c rest =>
    unfold splitNames
    split
    · exact List.cons_ne_nil _ _
    · split <;> exact List.cons_ne_nil _ _

theorem splitNames_append (left right : List Char) :
    splitNames (left ++ '/' :: right) = splitNames left ++ splitNames right := by
  induction left with
  | nil => rfl
  | cons c rest ih =>
    rw [List.cons_append, splitNames, ih]
    split
    · next hc => simp [splitNames, hc]
    · next hc =>
      obtain ⟨name, names, hnames⟩ := List.exists_cons_of_ne_nil (splitNames_ne_nil rest)
      simp [splitNames, hc, hnames]

theorem splitNames_of_notMem {name : List Char} (hname : '/' ∉ name) :
    splitNames name = [name] := by
  induction name with
  | nil => rfl
  | cons c rest ih =>
    rw [List.mem_cons, not_or] at hname
    obtain ⟨hc, hrest⟩ := hname
    simp [splitNames, ih hrest, Ne.symm hc]

/-- The names of a path with a slash in it are those before the slash and those behind it. -/
theorem names_append_slash (left right : String) :
    names (left ++ "/" ++ right) = names left ++ names right := by
  simp [names, splitNames_append]

theorem IsPlain.names_eq {name : String} (hname : IsPlain name) : names name = [name] := by
  simp [names, splitNames_of_notMem hname.ne_slash]

/-- The ways in which a name can be put behind the path of a directory: with a slash, or without one
behind the working directory and behind a slash. -/
theorem join_cases (directory : String) :
    (directory = "" ∧ ∀ name, join directory name = name) ∨
      (∃ outer, directory = outer ++ "/" ∧ ∀ name, join directory name = outer ++ "/" ++ name) ∨
        (directory ≠ "" ∧ ∀ name, join directory name = directory ++ "/" ++ name) := by
  cases hlast : directory.toList.getLast? with
  | none =>
    have hempty : directory = "" := by simpa using hlast
    exact Or.inl ⟨hempty, fun name => by rw [join, hlast]⟩
  | some last =>
    have hnonempty : directory ≠ "" := by
      rintro rfl
      cases hlast
    by_cases hslash : last = '/'
    · subst hslash
      obtain ⟨outer, houter⟩ := List.getLast?_eq_some_iff.mp hlast
      have hdirectory : directory = String.ofList outer ++ "/" := by
        rw [← String.toList_inj, houter]
        simp
      exact Or.inr (Or.inl ⟨_, hdirectory, fun name => by simp [join, hlast, ← hdirectory]⟩)
    · refine Or.inr (Or.inr ⟨hnonempty, fun name => ?_⟩)
      rw [join, hlast]
      split
      · next h => cases h
      · next h => cases h; exact absurd rfl hslash
      · rfl

/-- What leads to the names in a directory. -/
theorem exists_names_join (directory : String) :
    ∃ outer, (names directory = outer ∨ names directory = outer ++ [""]) ∧
      ∀ name, IsPlain name → names (join directory name) = outer ++ [name] := by
  rcases join_cases directory with ⟨rfl, hjoin⟩ | ⟨outer, rfl, hjoin⟩ | ⟨-, hjoin⟩
  · exact ⟨[], Or.inr rfl, fun name hname => by rw [hjoin, hname.names_eq, List.nil_append]⟩
  · refine ⟨names outer, Or.inr ?_, fun name hname => ?_⟩
    · have hnames := names_append_slash outer ""
      rwa [String.append_empty] at hnames
    · rw [hjoin, names_append_slash, hname.names_eq]
  · exact ⟨names directory, Or.inl rfl, fun name hname => by
      rw [hjoin, names_append_slash, hname.names_eq]⟩

theorem isAbsolute_append {left : String} (hleft : left ≠ "") (right : String) :
    isAbsolute (left ++ right) = isAbsolute left := by
  have hne : left.toList ≠ [] := by simpa using hleft
  obtain ⟨first, rest, htext⟩ := List.exists_cons_of_ne_nil hne
  simp [isAbsolute, htext]

/-- Names in a directory are reached from where the directory is reached. -/
theorem isAbsolute_join (directory : String) {name : String} (hname : IsPlain name) :
    isAbsolute (join directory name) = isAbsolute directory := by
  rcases join_cases directory with ⟨rfl, hjoin⟩ | ⟨outer, rfl, hjoin⟩ | ⟨hne, hjoin⟩
  · rw [hjoin]
    have hhead : name.toList.head? ≠ some '/' := fun hhead =>
      hname.ne_slash (List.mem_of_mem_head? hhead)
    simp [isAbsolute, hhead]
  · rw [hjoin, isAbsolute_append (by simp)]
  · rw [hjoin, String.append_assoc, isAbsolute_append hne]

/-- The path of a directory has no more in it than the path of a name in the directory. -/
theorem toList_subset_join (directory name : String) :
    directory.toList ⊆ (join directory name).toList ∧
      directory.utf8ByteSize ≤ (join directory name).utf8ByteSize := by
  rcases join_cases directory with ⟨rfl, hjoin⟩ | ⟨outer, rfl, hjoin⟩ | ⟨-, hjoin⟩
  · simp
  · simp [hjoin]
  · simp [hjoin, Nat.add_assoc]

end QueryModel.Path
