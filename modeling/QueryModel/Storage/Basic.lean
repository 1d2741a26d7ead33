import QueryModel.Storage.Path

/-! # Storage

Where files are kept. What a command does to files it does through this interface, so it can be run
against the files of a machine and against files that are only thought of.
-/

namespace QueryModel

/-- Why a file cannot be reached. -/
inductive FileError where
  | notFound
  | alreadyExists
  | notADirectory
  | isADirectory
  /-- A name, or the whole path, is longer than a path may be. -/
  | nameTooLong
  /-- There is a null character in the path. -/
  | nullInPath
  /-- Some other reason, in words. -/
  | other (reason : String)
deriving DecidableEq

/-- The message of a file error. -/
def FileError.message : FileError → String
  | .notFound => "No such file or directory (os error 2)"
  | .alreadyExists => "File exists (os error 17)"
  | .notADirectory => "Not a directory (os error 20)"
  | .isADirectory => "Is a directory (os error 21)"
  | .nameTooLong => "File name too long (os error 36)"
  | .nullInPath => "file name contained an unexpected NUL byte"
  | .other reason => reason

/-- Files, reached by their paths. -/
class Storage (m : Type → Type) where
  /-- Whether something stands at a path. -/
  contains : String → m (Except FileError Bool)
  /-- Whether a directory is known to stand at a path. -/
  isDirectory : String → m Bool
  /-- The text of a file. -/
  readText : String → m (Except FileError String)
  /-- Make a directory in one that is there. -/
  makeDirectory : String → m (Except FileError Unit)
  /-- Make a file with a text, or give the text to a file that is there. -/
  writeText : String → String → m (Except FileError Unit)

namespace Storage

variable {m : Type → Type} [Monad m]

/-- Reach files, and fail with an error made of the one that occurred. -/
def attempt {ε α : Type} (toError : FileError → ε) (action : m (Except FileError α)) :
    ExceptT ε m α :=
  ExceptT.mk do return (← action).mapError toError

variable [Storage m]

/-- Make a directory, unless it is there. -/
def ensureDirectory (path : String) : m (Except FileError Unit) := do
  match ← makeDirectory path with
  | .ok () => return .ok ()
  | .error error => return if ← isDirectory path then .ok () else .error error

/-- Make the first of some directories, and those of the others that it stands in, unless they are
there. The search for one that is there goes outwards, and an obstacle on the way is reported before
anything is made. -/
def ensureNested : List String → m (Except FileError Unit)
  | [] => return .ok ()
  | path :: outer => do
    match ← ensureDirectory path with
    | .error .notFound =>
      match ← ensureNested outer with
      | .ok () => ensureDirectory path
      | .error error => return .error error
    | outcome => return outcome

/-- Make a directory, and the directories it stands in, unless they are there. -/
def createDirectories (path : String) : m (Except FileError Unit) :=
  ensureNested (if path = "" then [] else path :: Path.enclosing path)

end Storage

end QueryModel
