import QueryModel.Command.Basic

/-! # Command lines

A command line names the directory of the configuration if it is not the current one, a command,
and the options of the command. An option may take a value, which is joined to its name by an
equals sign or is the next argument. The value of the option given last is looked at only when the
next option is met or when the line ends, so a request for help that comes before that is heard.
-/

namespace QueryModel

/-- What a command line asks for if it is not a command. -/
inductive LineRefusal where
  | help
  | version
  | usage
deriving DecidableEq

namespace CommandLine

/-- An option. -/
structure OptionRule where
  name : String
  /-- The values the option accepts, if it takes one. -/
  accepts : Option (String → Bool)

/-- An option that takes no value. -/
def flag (name : String) : OptionRule := ⟨name, none⟩

/-- An option that takes the path of a file or a directory. -/
def pathOption (name : String) : OptionRule := ⟨name, some fun value => !value.isEmpty⟩

/-- An option that takes a name among several. -/
def choiceOption {α : Type} (name : String) (ofName? : String → Option α) : OptionRule :=
  ⟨name, some fun value => (ofName? value).isSome⟩

/-- An argument, by its dashes. -/
inductive Argument where
  | word (text : String)
  | long (name : String) (value : Option String)
  | short (letter : Char)
  /-- Two dashes, after which there are no options. -/
  | separator
deriving DecidableEq

/-- The kind of an argument. A single dash is a word. -/
def Argument.ofText (text : String) : Argument :=
  match text.toList with
  | ['-', '-'] => .separator
  | '-' :: '-' :: rest =>
    let name := String.ofList (rest.takeWhile (· != '='))
    match rest.dropWhile (· != '=') with
    | [] => .long name none
    | _ :: value => .long name (some (String.ofList value))
  | '-' :: letter :: _ => .short letter
  | _ => .word text

/-- The options that have been given. -/
structure Given where
  /-- The options whose values have been accepted; a flag has the empty value. -/
  accepted : List (String × String)
  /-- The option given last, with its value if that has been met, when its value is still to be
  looked at. -/
  pending : Option (OptionRule × Option String)

namespace Given

/-- Nothing has been given. -/
def empty : Given := ⟨[], none⟩

/-- The value of an option that has been given. -/
def value? (given : Given) (name : String) : Option String :=
  (given.accepted.find? fun entry => entry.1 == name).map Prod.snd

/-- Whether an option has been given. -/
def contains (given : Given) (name : String) : Bool := (given.value? name).isSome

/-- Accept an option, which must not have been given before, with its value. -/
def accept (given : Given) (option : OptionRule) (value : String) : Except LineRefusal Given :=
  if given.contains option.name then .error .usage
  else if option.accepts.all fun accepts => accepts value then
    .ok { given with accepted := (option.name, value) :: given.accepted }
  else .error .usage

/-- Look at the value of the option given last. -/
def settle (given : Given) : Except LineRefusal Given :=
  match given.pending with
  | none => .ok given
  | some (_, none) => .error .usage
  | some (option, some value) => { given with pending := none }.accept option value

/-- Whether the next argument has to be a value. -/
def awaitsValue (given : Given) : Bool :=
  match given.pending with
  | some (_, none) => true
  | some (_, some _) => false
  | none => false

/-- Take a word as the value that is awaited. -/
def takeValue (given : Given) (word : String) : Given :=
  { given with pending := given.pending.map fun (option, _) => (option, some word) }

/-- React to an option. -/
def takeLong (given : Given) (options : List OptionRule) (name : String) (value : Option String) :
    Except LineRefusal Given := do
  let given ← given.settle
  if value.isNone ∧ name = "help" then .error .help
  else if value.isNone ∧ name = "version" then .error .version
  else
    match options.find? fun option => option.name == name with
    | none => .error .usage
    | some option =>
      match option.accepts, value with
      | none, none => given.accept option ""
      | none, some _ => .error .usage
      | some _, none => .ok { given with pending := some (option, none) }
      | some _, some value => given.accept option value

/-- React to an option of a single letter. -/
def takeShort (given : Given) (letter : Char) : Except LineRefusal Given := do
  let _ ← given.settle
  .error (if letter = 'h' then .help else if letter = 'V' then .version else .usage)

end Given

/-- Read the options of a command. -/
def readOptions (options : List OptionRule) : List String → Given → Except LineRefusal Given
  | [], given => given.settle
  | argument :: rest, given =>
    match Argument.ofText argument with
    | .separator => if rest.isEmpty then given.settle else .error .usage
    | .long name value => do
      let given ← given.takeLong options name value
      readOptions options rest given
    | .short letter => do
      let given ← given.takeShort letter
      readOptions options rest given
    | .word word =>
      if given.awaitsValue then readOptions options rest (given.takeValue word)
      else .error .usage

/-- The commands, as they are named. -/
inductive Verb where
  | create
  | render
  | translate
  | schema
deriving DecidableEq

namespace Verb

/-- The name of a command. -/
def name : Verb → String
  | .create => "initialize"
  | .render => "render"
  | .translate => "translate"
  | .schema => "schema"

/-- The command of a name. -/
def ofName? (name : String) : Option Verb :=
  [Verb.create, .render, .translate, .schema].find? fun verb => verb.name == name

/-- The options of a command. -/
def options : Verb → List OptionRule
  | .create =>
    [flag "force", choiceOption "dialect" Dialect.ofName?,
      choiceOption "negation-strategy" NegationStrategy.ofName?]
  | .render => [pathOption "request"]
  | .translate => [pathOption "request", flag "pretty", flag "explain"]
  | .schema => [flag "request"]

/-- The command with the options it was given. -/
def command (verb : Verb) (given : Given) : Except LineRefusal Command :=
  match verb with
  | .create =>
    .ok (.create (given.contains "force")
      (((given.value? "dialect").bind Dialect.ofName?).getD .postgres)
      (((given.value? "negation-strategy").bind NegationStrategy.ofName?).getD .wrap))
  | .render =>
    match given.value? "request" with
    | none => .error .usage
    | some request => .ok (.render request)
  | .translate =>
    match given.value? "request" with
    | none => .error .usage
    | some request => .ok (.translate request (given.contains "pretty") (given.contains "explain"))
  | .schema => .ok (.schema (given.contains "request"))

end Verb

/-- The word that asks for help in place of a command. -/
def helpWord : String := "help"

/-- The answer to a request for help about commands. -/
def helpOn : List String → LineRefusal
  | [] => .help
  | [topic] => if topic = helpWord ∨ (Verb.ofName? topic).isSome then .help else .usage
  | _ :: _ :: _ => .usage

/-- Read a command line, the options before the command having been given. -/
def readFrom : List String → Given → Except LineRefusal Invocation
  | [], _ => .error .usage
  | argument :: rest, given =>
    match Argument.ofText argument with
    | .separator => .error .usage
    | .long name value => do
      let given ← given.takeLong [pathOption "context"] name value
      readFrom rest given
    | .short letter => do
      let given ← given.takeShort letter
      readFrom rest given
    | .word word =>
      if given.awaitsValue then readFrom rest (given.takeValue word)
      else if word = helpWord then .error (helpOn rest)
      else
        match Verb.ofName? word with
        | none => .error .usage
        | some verb => do
          let options ← readOptions verb.options rest .empty
          let command ← verb.command options
          let given ← given.settle
          return ⟨(given.value? "context").getD ".", command⟩

/-- Read a command line. -/
def read (arguments : List String) : Except LineRefusal Invocation := readFrom arguments .empty

end CommandLine

end QueryModel
