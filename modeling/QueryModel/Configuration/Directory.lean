import QueryModel.Configuration.Schema
import QueryModel.Storage.Basic

/-! # Configuration directories

A configuration is kept in a directory: the configuration itself and, beside it, the JSON schema
that describes it.
-/

namespace QueryModel

/-- Why a configuration cannot be read from a directory. -/
inductive ConfigurationError where
  /-- The text of a file is no configuration; the line is the one at which reading it fails. -/
  | malformed (file : String) (line : Nat)
  | missingDirectory (directory : String)
  /-- Whether the directory is there cannot be told. -/
  | inaccessible (error : FileError)
  | unreadable (file : String) (error : FileError)
deriving DecidableEq

/-- The message of an error that reaching files has led to. -/
def FileError.storageMessage (error : FileError) : String := "I/O error: " ++ error.message

/-- The message of a configuration error. -/
def ConfigurationError.message : ConfigurationError → String
  | .malformed file line =>
    "parse error on " ++ file ++ ":" ++ String.ofList (Text.digits line)
  | .missingDirectory directory =>
    "configuration directory " ++ directory ++ " does not exist"
  | .inaccessible error => error.storageMessage
  | .unreadable file error => "I/O error: " ++ file ++ ": " ++ error.message

namespace ConfigurationFile

/-- The name of the file that holds a configuration. -/
def fileName : String := "configuration.json"

/-- The name of the file that holds the JSON schema. -/
def schemaFileName : String := "schema.json"

variable {m : Type → Type} [Monad m] [Storage m]

/-- Read the configuration in a directory. -/
def load (directory : String) : ExceptT ConfigurationError m ConfigurationFile := do
  if ← Storage.attempt .inaccessible (Storage.contains directory) then
    let file := Path.join directory fileName
    let text ← Storage.attempt (.unreadable file) (Storage.readText file)
    match read text with
    | .error line => throw (.malformed file line)
    | .ok configuration => return configuration
  else throw (.missingDirectory directory)

/-- Write a configuration and its JSON schema into a directory, which is made if it is missing. -/
def save (file : ConfigurationFile) (directory : String) : ExceptT FileError m Unit := do
  Storage.attempt id (Storage.createDirectories directory)
  Storage.attempt id (Storage.writeText (Path.join directory fileName) file.write)
  Storage.attempt id
    (Storage.writeText (Path.join directory schemaFileName) (fileText jsonSchema))

end ConfigurationFile

end QueryModel
