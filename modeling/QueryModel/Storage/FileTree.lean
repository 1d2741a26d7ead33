import QueryModel.Storage.Basic

/-! # File trees

Files and directories as a value. A path is walked from the working directory, or from the root if
it begins with a slash: every name on the way has to be that of a directory, an empty name and a
single dot stay where they are, and two dots go up. Names and paths have a greatest length.
-/

namespace QueryModel

/-- A place in a tree: the names on the way to it from the root, the last one first. -/
abbrev Place := List String

namespace Place

/-- The place that a name leads to from a directory. -/
def step (place : Place) (name : String) : Place :=
  if Path.isIdle name then place
  else if name = ".." then place.tail
  else name :: place

end Place

/-- What can stand at a place. -/
inductive FileTree.Node where
  | file (text : String)
  | directory
deriving DecidableEq

/-- Files and directories. -/
structure FileTree where
  /-- What stands at places other than the root, the latest entry of a place first. -/
  nodes : List (Place × FileTree.Node)
  /-- The place from which paths are walked. -/
  workingDirectory : Place

namespace FileTree

/-- A tree with nothing but a working directory. -/
def empty : FileTree := ⟨[(["work"], .directory)], ["work"]⟩

/-- What stands at a place. -/
def node? (tree : FileTree) (place : Place) : Option Node :=
  if place = [] then some .directory
  else (tree.nodes.find? fun entry => entry.1 = place).map Prod.snd

/-- The tree with something at a place. -/
def put (tree : FileTree) (place : Place) (node : Node) : FileTree :=
  { tree with nodes := (place, node) :: tree.nodes }

theorem node?_put_self (tree : FileTree) {place : Place} (node : Node) (hplace : place ≠ []) :
    (tree.put place node).node? place = some node := by
  simp [node?, put, hplace]

theorem node?_put_of_ne (tree : FileTree) {place other : Place} (node : Node)
    (hne : other ≠ place) : (tree.put place node).node? other = tree.node? other := by
  simp [node?, put, Ne.symm hne]

/-- The greatest length of a name, in bytes. -/
def longestName : Nat := 255

/-- The greatest length of a path, in bytes. -/
def longestPath : Nat := 4095

/-- The place where a path begins. -/
def start (tree : FileTree) (path : String) : Place :=
  if Path.isAbsolute path then [] else tree.workingDirectory

/-- Walk along names. The last of them need not be there. -/
def walk (tree : FileTree) : List String → Place → Except FileError Place
  | [], place => .ok place
  | name :: rest, place =>
    match tree.node? place with
    | none => .error .notFound
    | some (.file _) => .error .notADirectory
    | some .directory =>
      if longestName < name.utf8ByteSize then .error .nameTooLong
      else tree.walk rest (place.step name)

/-- The place that names of a path lead to. -/
def resolve (tree : FileTree) (path : String) (names : List String) : Except FileError Place :=
  if path.toList.contains '\x00' then .error .nullInPath
  else if path = "" then .error .notFound
  else if longestPath < path.utf8ByteSize then .error .nameTooLong
  else tree.walk names (tree.start path)

/-- The place of a path. -/
def locate (tree : FileTree) (path : String) : Except FileError Place :=
  tree.resolve path (Path.names path)

/-- Whether something stands at a path. -/
def contains (tree : FileTree) (path : String) : Except FileError Bool :=
  match tree.locate path with
  | .ok place => .ok (tree.node? place).isSome
  | .error .notFound => .ok false
  | .error error => .error error

/-- Whether a directory stands at a path. -/
def isDirectory (tree : FileTree) (path : String) : Bool :=
  match tree.locate path with
  | .ok place => tree.node? place = some .directory
  | .error _ => false

/-- The text of a file. -/
def readText (tree : FileTree) (path : String) : Except FileError String := do
  let place ← tree.locate path
  match tree.node? place with
  | none => .error .notFound
  | some .directory => .error .isADirectory
  | some (.file text) => .ok text

/-- Make a directory in one that is there. Slashes at the end of the path do not ask for more. -/
def makeDirectory (tree : FileTree) (path : String) : Except FileError FileTree := do
  let names := ((Path.names path).reverse.dropWhile String.isEmpty).reverse
  let place ← tree.resolve path names
  match tree.node? place with
  | some _ => .error .alreadyExists
  | none => .ok (tree.put place .directory)

/-- Make a file with a text, or give the text to a file that is there. -/
def writeText (tree : FileTree) (path text : String) : Except FileError FileTree := do
  let place ← tree.locate path
  match tree.node? place with
  | some .directory => .error .isADirectory
  | some (.file _) => .ok (tree.put place (.file text))
  | none => .ok (tree.put place (.file text))

/-- A change of a tree, which stays as it is when the change fails. -/
def change (f : FileTree → Except FileError FileTree) : StateM FileTree (Except FileError Unit) :=
  fun tree =>
    match f tree with
    | .ok changed => (.ok (), changed)
    | .error error => (.error error, tree)

instance : Storage (StateM FileTree) where
  contains path := fun tree => (tree.contains path, tree)
  isDirectory path := fun tree => (tree.isDirectory path, tree)
  readText path := fun tree => (tree.readText path, tree)
  makeDirectory path := change fun tree => tree.makeDirectory path
  writeText path text := change fun tree => tree.writeText path text

/-- Make a file with a text, and the directories it stands in. -/
def placeFile (path text : String) : StateM FileTree (Except FileError Unit) := do
  match ← Storage.createDirectories (String.intercalate "/" (Path.names path).dropLast) with
  | .ok () => Storage.writeText path text
  | .error error => return .error error

/-- The tree with a file and the directories it stands in, as far as they can be made. -/
def withFile (tree : FileTree) (path text : String) : FileTree := (placeFile path text tree).2

end FileTree

end QueryModel
