/-! # Paths

Paths as texts of names with slashes between them. An empty name and a single dot lead nowhere, two
dots lead up, and a slash at the beginning leads to the root.
-/

namespace QueryModel.Path

/-- The path of a name in a directory. -/
def join (directory name : String) : String :=
  match directory.toList.getLast? with
  | none => name
  | some '/' => directory ++ name
  | some _ => directory ++ "/" ++ name

/-- The names between the slashes of a text. -/
def splitNames : List Char → List (List Char)
  | [] => [[]]
  | c :: rest =>
    if c = '/' then [] :: splitNames rest
    else
      match splitNames rest with
      | [] => [[c]]
      | name :: names => (c :: name) :: names

/-- The names in a path. -/
def names (path : String) : List String := (splitNames path.toList).map String.ofList

/-- Whether a path begins at the root. -/
def isAbsolute (path : String) : Bool := path.toList.head? == some '/'

/-- Whether a name leads nowhere. -/
def isIdle (name : String) : Bool := name == "" || name == "."

/-- The paths that end in each of some names, the last of which comes first here, after what stands
before all of them. -/
def shortening (start : String) : List String → List String
  | [] => []
  | name :: outer =>
    (start ++ String.intercalate "/" (name :: outer).reverse) :: shortening start outer

/-- The paths of the directories that a path leads through, the innermost first. Names that lead
nowhere are left out, also from the end of the path. -/
def enclosing (path : String) : List String :=
  shortening (if isAbsolute path then "/" else "")
    ((names path).filter fun name => !isIdle name).reverse.tail

end QueryModel.Path
