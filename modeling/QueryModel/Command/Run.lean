import QueryModel.Command.Basic
import QueryModel.Planning.Plan
import QueryModel.Request.Schema
import QueryModel.Sql.Layout
import QueryModel.Text.Escaped

/-! # Running commands

What each command does to files and says.
-/

namespace QueryModel

/-- A parameter, as it is listed below a statement. -/
def Sql.Param.listing : Sql.Param → String
  | .string text => "String(" ++ Text.escaped text ++ ")"
  | .variable name => "Variable(" ++ Text.escaped name ++ ")"
  | .positional position => "Positional(" ++ String.ofList (Text.digits position) ++ ")"

/-- Parameters with the placeholders that stand for them, counted from a number, a line each. -/
def Sql.listings (index : Nat) : List Sql.Param → String
  | [] => ""
  | param :: rest =>
    "-- " ++ Sql.placeholder index ++ " = " ++ param.listing ++ "\n" ++ listings (index + 1) rest

/-- A statement and, below it, its parameters. -/
def Sql.Buffer.listing (buffer : Sql.Buffer) : String :=
  buffer.text ++ "\n" ++ Sql.listings 1 buffer.params

namespace Command

variable {m : Type → Type} [Monad m] [Storage m]

/-- Write a configuration to begin with. -/
def runCreate (directory : String) (force : Bool) (dialect : Dialect)
    (strategy : NegationStrategy) : ExceptT CommandError m String := do
  let path := Path.join directory ConfigurationFile.fileName
  if !force then
    if ← Storage.attempt .file (Storage.contains path) then
      throw (.alreadyConfigured path)
  let file :=
    { ConfigurationFile.initial with dialect := dialect, negationStrategy := strategy }
  (file.save directory).adapt .unwritable
  return "Initialized " ++ path ++ "\n"

/-- Read the configuration in a directory and check it. -/
def readConfiguration (directory : String) : ExceptT CommandError m Configuration := do
  let file ← (ConfigurationFile.load directory).adapt .configuration
  match file.toConfiguration with
  | .error found => throw (.defect found)
  | .ok configuration => return configuration

/-- Read a request from a file. -/
def readRequest (path : String) : ExceptT CommandError m Request := do
  let text ← Storage.attempt .file (Storage.readText path)
  match Request.read? text with
  | none => throw .malformedRequest
  | some request => return request

/-- Plan with nodes of which none was built before. -/
def planned {α : Type} (build : Building PlanError α) : ExceptT CommandError m α :=
  match build 0 with
  | .error error => throw (.plan error)
  | .ok (value, _) => return value

/-- Write a request as HQL. -/
def runRender (directory request : String) : ExceptT CommandError m String := do
  let configuration ← readConfiguration directory
  let request ← readRequest request
  let prepared ← planned (configuration.prepare request)
  return prepared.statement.hql ++ "\n"

/-- Translate a request to SQL. -/
def runTranslate (directory request : String) (pretty explain : Bool) :
    ExceptT CommandError m String := do
  let configuration ← readConfiguration directory
  let request ← readRequest request
  let plan ← planned (configuration.plan request)
  let statement := if pretty then plan.query.laidOut else plan.query.pieces
  return (Sql.Buffer.ofPieces (if explain then Sql.explained statement else statement)).listing

/-- Run a command under the configuration in a directory, and return what it says. -/
def run (command : Command) (directory : String) : ExceptT CommandError m String :=
  match command with
  | .create force dialect strategy => runCreate directory force dialect strategy
  | .render request => runRender directory request
  | .translate request pretty explain => runTranslate directory request pretty explain
  | .schema true => return ConfigurationFile.fileText Request.jsonSchema
  | .schema false => return ConfigurationFile.fileText ConfigurationFile.jsonSchema

end Command

/-- Run the command of an invocation. -/
def Invocation.run {m : Type → Type} [Monad m] [Storage m] (invocation : Invocation) :
    ExceptT CommandError m String :=
  invocation.command.run invocation.context

end QueryModel
