import QueryModel.Configuration.Directory
import QueryModel.Planning.Error

/-! # Commands

What can be asked for on the command line, and what can go wrong when it is done.
-/

namespace QueryModel

/-- A command. -/
inductive Command where
  /-- Write a configuration to begin with. An existing one is replaced only by force. -/
  | create (force : Bool) (dialect : Dialect) (strategy : NegationStrategy)
  /-- Write a request as HQL. -/
  | render (request : String)
  /-- Translate a request to SQL, laid out for reading or not, to be run or to be explained. -/
  | translate (request : String) (pretty explain : Bool)
  /-- Write the JSON schema of requests, or that of configurations. -/
  | schema (ofRequest : Bool)
deriving DecidableEq

/-- A command, and the directory that holds the configuration it is done under. -/
structure Invocation where
  context : String
  command : Command
deriving DecidableEq

/-- Why a command cannot be done. -/
inductive CommandError where
  | configuration (error : ConfigurationError)
  | defect (found : ConfigurationDefect)
  /-- A configuration cannot be written. -/
  | unwritable (error : FileError)
  | file (error : FileError)
  | malformedRequest
  | plan (error : PlanError)
  | alreadyConfigured (path : String)

/-- The message of a command error. -/
def CommandError.message : CommandError → String
  | .configuration error => error.message
  | .defect found => found.message
  | .unwritable error => error.storageMessage
  | .file error => error.message
  | .malformedRequest => "the request cannot be read"
  | .plan error => error.message
  | .alreadyConfigured path => path ++ " already exists; use --force to overwrite it"

end QueryModel
