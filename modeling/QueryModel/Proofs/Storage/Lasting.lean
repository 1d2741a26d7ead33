import QueryModel.Proofs.Storage.Joined
import QueryModel.Storage.FileTree

/-! # Storage that keeps what is written

What is asked of files: a path is read as the text that was last written to it, a write to one name
in a directory leaves the others, and the directory is there. File trees are such a storage.
-/

namespace QueryModel

namespace Storage

variable {σ : Type} [Storage (StateM σ)]

/-- `Holds state path text`: the text is read from the path. -/
def Holds (state : σ) (path text : String) : Prop :=
  (Storage.readText path : StateM σ (Except FileError String)) state = (.ok text, state)

/-- `Writes state path text next`: the text is written to the path. -/
def Writes (state : σ) (path text : String) (next : σ) : Prop :=
  (Storage.writeText path text : StateM σ (Except FileError Unit)) state = (.ok (), next)

/-- `Has state path`: something is found at the path. -/
def Has (state : σ) (path : String) : Prop :=
  (Storage.contains path : StateM σ (Except FileError Bool)) state = (.ok true, state)

/-- A storage whose paths hold what was last written to them. -/
class IsLasting (σ : Type) [Storage (StateM σ)] : Prop where
  /-- What is written is read. -/
  holds_of_writes {state next : σ} {path text : String} (hwrites : Writes state path text next) :
    Holds next path text
  /-- A write to another name in the same directory changes nothing. -/
  holds_of_writes_beside {state next : σ} {directory name other held text : String}
    (hname : Path.IsPlain name) (hother : Path.IsPlain other) (hne : name ≠ other)
    (hholds : Holds state (Path.join directory name) held)
    (hwrites : Writes state (Path.join directory other) text next) :
    Holds next (Path.join directory name) held
  /-- A directory in which something is written is there. The empty path is that of no directory. -/
  has_of_writes {state next : σ} {directory name text : String} (hdirectory : directory ≠ "")
    (hname : Path.IsPlain name) (hwrites : Writes state (Path.join directory name) text next) :
    Has next directory

end Storage

namespace FileTree

variable {tree : FileTree} {path : String} {place last : Place}

/-! ## Walks -/

theorem walk_append (tree : FileTree) (names others : List String) (start : Place) :
    tree.walk (names ++ others) start = (tree.walk names start).bind (tree.walk others) := by
  induction names generalizing start with
  | nil => rfl
  | cons name rest ih =>
    rw [List.cons_append, walk, walk]
    split
    · rfl
    · rfl
    · split
      · rfl
      · exact ih _

/-- A walk to its end goes through directories, so what is put where there was none is not in the
way. -/
theorem walk_put {names : List String} {start : Place}
    (hplace : tree.node? place ≠ some .directory) (node : Node)
    (hwalk : tree.walk names start = .ok last) :
    (tree.put place node).walk names start = .ok last := by
  induction names generalizing start with
  | nil => exact hwalk
  | cons name rest ih =>
    rw [walk] at hwalk ⊢
    by_cases hstart : start = place
    · subst hstart
      split at hwalk
      · cases hwalk
      · cases hwalk
      · next hdirectory => exact absurd hdirectory hplace
    · rw [node?_put_of_ne tree node hstart]
      split at hwalk
      · cases hwalk
      · cases hwalk
      · split at hwalk
        · cases hwalk
        · next hdirectory hlength =>
          rw [if_neg hlength]
          exact ih hwalk

/-- A path that is found is a text that a path can be, and leads to the place. -/
theorem locate_eq_ok_iff :
    tree.locate path = .ok last ↔
      (path.toList.contains '\x00' = false ∧ path ≠ "" ∧ path.utf8ByteSize ≤ longestPath) ∧
        tree.walk (Path.names path) (tree.start path) = .ok last := by
  unfold locate resolve
  split
  · simp_all
  split
  · simp_all
  split
  · next hlong => simp [Nat.not_le.mpr hlong]
  · next hnull hempty hshort => simp_all

theorem locate_put (hplace : tree.node? place ≠ some .directory) (node : Node)
    (hlocate : tree.locate path = .ok last) : (tree.put place node).locate path = .ok last := by
  obtain ⟨htext, hwalk⟩ := locate_eq_ok_iff.mp hlocate
  exact locate_eq_ok_iff.mpr ⟨htext, walk_put hplace node hwalk⟩

/-- A plain name leads from a directory to what has the name in it. -/
theorem walk_plain {name : String} {start : Place} (hname : Path.IsPlain name)
    (hwalk : tree.walk [name] start = .ok last) :
    tree.node? start = some .directory ∧ last = name :: start := by
  simp only [walk] at hwalk
  split at hwalk
  · cases hwalk
  · cases hwalk
  · next hdirectory =>
    split at hwalk
    · cases hwalk
    · cases hwalk
      exact ⟨hdirectory, by simp [Place.step, hname.ne_idle, hname.ne_up]⟩

/-! ## Directories -/

/-- Where the plain names in a directory are. The walk to the directory is the same for all of them,
and ends at a directory if one of them is found. -/
theorem exists_directory (tree : FileTree) (directory : String) :
    ∃ base : Except FileError Place, ∀ name last, Path.IsPlain name →
      tree.locate (Path.join directory name) = .ok last →
        ∃ start, base = .ok start ∧ last = name :: start ∧ tree.node? start = some .directory ∧
          (directory ≠ "" → tree.locate directory = .ok start) := by
  -- The path of the directory may end in a slash, which adds an empty name that leads nowhere.
  obtain ⟨outer, houter, hjoin⟩ := Path.exists_names_join directory
  refine ⟨tree.walk outer (tree.start directory), fun name last hname hlocate => ?_⟩
  obtain ⟨⟨hnull, -, hlength⟩, hwalk⟩ := locate_eq_ok_iff.mp hlocate
  have hstart : tree.start (Path.join directory name) = tree.start directory := by
    rw [start, Path.isAbsolute_join directory hname, start]
  rw [hjoin name hname, hstart, walk_append] at hwalk
  cases hbase : tree.walk outer (tree.start directory) with
  | error error =>
    rw [hbase] at hwalk
    cases hwalk
  | ok start =>
    rw [hbase] at hwalk
    obtain ⟨hdirectory, hlast⟩ := walk_plain hname hwalk
    refine ⟨start, rfl, hlast, hdirectory, fun hne => locate_eq_ok_iff.mpr ⟨⟨?_, hne, ?_⟩, ?_⟩⟩
    · obtain ⟨hsubset, -⟩ := Path.toList_subset_join directory name
      simp only [List.contains_eq_mem, decide_eq_false_iff_not] at hnull ⊢
      exact fun hmem => hnull (hsubset hmem)
    · exact Nat.le_trans (Path.toList_subset_join directory name).2 hlength
    · rcases houter with houter | houter
      · rw [houter, hbase]
      · rw [houter, walk_append, hbase]
        simp [Except.bind, walk, hdirectory, longestName, Place.step, Path.isIdle]

/-! ## Writing -/

/-- What is written is put at its place, where there was no directory. -/
theorem exists_of_writeText {text : String} {next : FileTree}
    (hwrite : tree.writeText path text = .ok next) :
    ∃ place, tree.locate path = .ok place ∧ tree.node? place ≠ some .directory ∧
      next = tree.put place (.file text) := by
  unfold writeText at hwrite
  cases hlocate : tree.locate path with
  | error error =>
    rw [hlocate] at hwrite
    cases hwrite
  | ok place =>
    rw [hlocate] at hwrite
    simp only [bind, Except.bind] at hwrite
    split at hwrite
    · cases hwrite
    · next hnode =>
      cases hwrite
      exact ⟨place, rfl, by simp [hnode], rfl⟩
    · next hnode =>
      cases hwrite
      exact ⟨place, rfl, by simp [hnode], rfl⟩

open Storage

theorem exists_of_writes {text : String} {next : FileTree} (hwrites : Writes tree path text next) :
    ∃ place, tree.locate path = .ok place ∧ tree.node? place ≠ some .directory ∧
      next = tree.put place (.file text) := by
  refine exists_of_writeText ?_
  change change _ tree = _ at hwrites
  unfold change at hwrites
  split at hwrites
  · next changed hchanged =>
    cases hwrites
    exact hchanged
  · cases hwrites

theorem holds_iff {text : String} :
    Holds tree path text ↔
      ∃ place, tree.locate path = .ok place ∧ tree.node? place = some (.file text) := by
  change ((tree.readText path, tree) = (.ok text, tree)) ↔ _
  rw [Prod.mk.injEq, and_iff_left rfl, readText]
  cases tree.locate path with
  | error error => simp [bind, Except.bind]
  | ok place =>
    simp only [bind, Except.bind]
    split
    · next hnode => simp [hnode]
    · next hnode => simp [hnode]
    · next held hnode => simp [hnode]

/-- File trees keep what is written. -/
instance : IsLasting FileTree where
  holds_of_writes := by
    intro tree next path text hwrites
    obtain ⟨place, hlocate, hnode, rfl⟩ := exists_of_writes hwrites
    have hplace : place ≠ [] := by
      rintro rfl
      exact hnode rfl
    exact holds_iff.mpr ⟨place, locate_put hnode _ hlocate, node?_put_self tree _ hplace⟩
  holds_of_writes_beside := by
    intro tree next directory name other held text hname hother hne hholds hwrites
    obtain ⟨place, hlocate, hfile⟩ := holds_iff.mp hholds
    obtain ⟨written, hwritten, hnode, rfl⟩ := exists_of_writes hwrites
    obtain ⟨base, hbase⟩ := tree.exists_directory directory
    obtain ⟨start, rfl, rfl, -⟩ := hbase name place hname hlocate
    obtain ⟨_, hsame, rfl, -⟩ := hbase other written hother hwritten
    cases hsame
    refine holds_iff.mpr ⟨_, locate_put hnode _ hlocate, ?_⟩
    rw [node?_put_of_ne tree _ (by simp [hne]), hfile]
  has_of_writes := by
    intro tree next directory name text hdirectory hname hwrites
    obtain ⟨place, hlocate, hnode, rfl⟩ := exists_of_writes hwrites
    obtain ⟨base, hbase⟩ := (tree.put place (.file text)).exists_directory directory
    obtain ⟨start, -, -, hstart, hfound⟩ :=
      hbase name place hname (locate_put hnode _ hlocate)
    have hcontains : (tree.put place (.file text)).contains directory = .ok true := by
      rw [contains, hfound hdirectory]
      simp [hstart]
    exact Prod.ext hcontains rfl

end FileTree

end QueryModel
