import QueryModel.Command.Line
import QueryModel.Command.Run

/-! # The command line

Commands run against the files of the machine.
-/

namespace QueryModel

/-- A file error, by its kind. Errors of one kind are told apart by the number that the system gives
to them, which comes with either sign. -/
def FileError.ofIO : IO.Error → FileError
  | .noFileOrDirectory _ _ _ => .notFound
  | .alreadyExists _ _ _ => .alreadyExists
  | .inappropriateType _ code _ =>
    if code = 21 ∨ code = -21 then .isADirectory else .notADirectory
  | .invalidArgument (some path) code details =>
    if code = 36 ∨ code = -36 then .nameTooLong
    else .other (toString (IO.Error.invalidArgument (some path) code details))
  | error => .other (toString error)

/-- An action on a path, with the file error it has failed with. -/
def FileError.guard {α : Type} (path : String) (action : IO α) : IO (Except FileError α) := do
  if path.toList.contains '\x00' then return .error .nullInPath
  match ← action.toBaseIO with
  | .ok value => return .ok value
  | .error error => return .error (.ofIO error)

/-- Whether something stands at a path, which is tried by opening it. -/
def pathExists (path : String) : IO (Except FileError Bool) := do
  match ← FileError.guard path (IO.FS.withFile path .read fun _ => pure ()) with
  | .ok () => return .ok true
  | .error .isADirectory => return .ok true
  | .error .notFound => return .ok false
  | .error error => return .error error

/-- Whether a directory stands at a path, where a dot can follow only if one does. -/
def directoryExists (path : String) : IO Bool := do
  match ← pathExists (Path.join path ".") with
  | .ok found => return found
  | .error _ => return false

instance : Storage IO where
  contains path := pathExists path
  isDirectory path := directoryExists path
  readText path := FileError.guard path (IO.FS.readFile path)
  makeDirectory path := FileError.guard path (IO.FS.createDir path)
  writeText path text := FileError.guard path (IO.FS.writeFile path text)

/-- How a command line is written. -/
def usageText : String :=
  "Usage: [--context <DIRECTORY>] <COMMAND> [OPTIONS]\n\n" ++
  "Commands:\n" ++
  "  initialize [--force] [--dialect <DIALECT>] [--negation-strategy <STRATEGY>]\n" ++
  "  render --request <FILE>\n" ++
  "  translate --request <FILE> [--pretty] [--explain]\n" ++
  "  schema [--request]\n"

end QueryModel

open QueryModel in
/-- Run the command of a command line. -/
def main (arguments : List String) : IO UInt32 := do
  match CommandLine.read arguments with
  | .error .help =>
    IO.print usageText
    return 0
  | .error .version =>
    IO.println "0.1.0"
    return 0
  | .error .usage =>
    IO.eprint usageText
    return 2
  | .ok invocation =>
    match ← invocation.run.run with
    | .ok output =>
      IO.print output
      return 0
    | .error error =>
      IO.eprintln error.message
      return 1
