import QueryModel.Json.Lexer

/-! # JSON documents with lines

The tree of a JSON text, in which everything knows its line. A text that breaks off, or goes wrong
somewhere, has a tree as far as it goes, and the place where it ends is part of the tree: whoever
walks the tree in the order of the text meets that place after everything that stands before it.
-/

namespace QueryModel.Json

/-- The name of a member, and the lines that go with it. -/
structure Key where
  /-- The line the name stands on. -/
  line : Nat
  /-- The name; missing if it holds half of a surrogate pair. -/
  name : Option String
  /-- The line of what follows the name. -/
  nextLine : Nat
  /-- The line of the comma after the value, if there is one. -/
  commaLine : Option Nat

/-- How an array or an object ends. -/
inductive Ending where
  | closed (line : Nat)
  /-- It cannot be read further; the lines are those of a broken lexeme. -/
  | broken (readLine skipLine : Nat)

/-- A place where a value should stand and none can be read. -/
structure Cut where
  /-- The line at which the value would begin. -/
  line : Nat
  /-- Whether it begins like a string. -/
  quoted : Bool
  /-- The line at which taking the value fails. -/
  readLine : Nat
  /-- The line at which passing over the value fails. -/
  skipLine : Nat

/-- The tree of a text, up to where it can be read. -/
inductive Document where
  | null (line : Nat)
  | boolean (line : Nat) (value : Bool)
  | number (line : Nat) (written : List Char)
  | string (line : Nat) (value : Option String)
  | array (line : Nat) (items : List Document) (ending : Ending)
  | object (line : Nat) (members : List (Key × Document)) (ending : Ending)
  | cut (place : Cut)

/-- The line on which a value begins. -/
def Document.line : Document → Nat
  | .null line => line
  | .boolean line _ => line
  | .number line _ => line
  | .string line _ => line
  | .array line _ _ => line
  | .object line _ _ => line
  | .cut place => place.line

/-- An array or an object that is being read, its contents last first. -/
inductive Frame where
  | array (line : Nat) (items : List Document)
  | object (line : Nat) (members : List (Key × Document))
  /-- An object in which the value of a name is due. -/
  | member (line : Nat) (members : List (Key × Document)) (key : Key)

/-- What may stand next. -/
inductive Expected where
  | value
  | firstItem
  | afterItem
  | firstKey
  | key
  | colon (line : Nat) (name : Option String)
  | afterMember
deriving DecidableEq

/-- A text that is being read into a tree. -/
inductive Progress where
  | reading (expected : Expected) (frames : List Frame)
  /-- The tree is complete; the line of what follows it, if anything does. -/
  | complete (document : Document) (trailing : Option Nat)
  /-- The text went wrong. -/
  | abandoned (document : Document)

namespace Progress

/-- Put a complete value where it belongs. -/
def place (frames : List Frame) (value : Document) : Progress :=
  match frames with
  | [] => .complete value none
  | .array line items :: rest => .reading .afterItem (.array line (value :: items) :: rest)
  | .object line members :: rest => .reading .afterMember (.object line members :: rest)
  | .member line members key :: rest =>
    .reading .afterMember (.object line ((key, value) :: members) :: rest)

/-- The tree of what has been read, where the innermost value cannot be completed. -/
def closeAll (value : Document) : List Frame → Document
  | [] => value
  | .array line items :: rest =>
    closeAll (.array line (value :: items).reverse (.broken value.line value.line)) rest
  | .object line members :: rest =>
    closeAll (.object line members.reverse (.broken value.line value.line)) rest
  | .member line members key :: rest =>
    closeAll (.object line ((key, value) :: members).reverse (.broken value.line value.line)) rest

/-- Give up where a value should stand. -/
def abandonValue (frames : List Frame) (place : Cut) : Progress :=
  .abandoned (closeAll (.cut place) frames)

/-- Give up inside an array or an object, between its parts. -/
def abandonFrame (frames : List Frame) (readLine skipLine : Nat) : Progress :=
  match frames with
  | [] => .abandoned (.cut ⟨readLine, false, readLine, skipLine⟩)
  | .array line items :: rest =>
    .abandoned (closeAll (.array line items.reverse (.broken readLine skipLine)) rest)
  | .object line members :: rest =>
    .abandoned (closeAll (.object line members.reverse (.broken readLine skipLine)) rest)
  | .member line members _ :: rest =>
    .abandoned (closeAll (.object line members.reverse (.broken readLine skipLine)) rest)

/-- Complete the innermost array or object. -/
def closeFrame (frames : List Frame) (closing : Nat) : Progress :=
  match frames with
  | .array line items :: rest => place rest (.array line items.reverse (.closed closing))
  | .object line members :: rest => place rest (.object line members.reverse (.closed closing))
  | _ => abandonFrame frames closing closing

/-- Note the line of the comma after the newest member of the innermost object. -/
def noteComma (frames : List Frame) (line : Nat) : List Frame :=
  match frames with
  | .object opening ((key, value) :: members) :: rest =>
    .object opening (({ key with commaLine := some line }, value) :: members) :: rest
  | _ => frames

/-- Read a lexeme where a value should stand. -/
def stepValue (frames : List Frame) (lexeme : Lexeme) : Progress :=
  let line := lexeme.line
  match lexeme.token with
  | .null => place frames (.null line)
  | .boolean value => place frames (.boolean line value)
  | .number written => place frames (.number line written)
  | .string value => place frames (.string line value)
  | .openArray => .reading .firstItem (.array line [] :: frames)
  | .openObject => .reading .firstKey (.object line [] :: frames)
  | .broken quoted readLine skipLine => abandonValue frames ⟨line, quoted, readLine, skipLine⟩
  | _ => abandonValue frames ⟨line, false, line, line⟩

/-- Read a lexeme where a name should stand. -/
def stepKey (frames : List Frame) (lexeme : Lexeme) : Progress :=
  match lexeme.token with
  | .string name => .reading (.colon lexeme.line name) frames
  | .broken true readLine skipLine => abandonFrame frames readLine skipLine
  | _ => abandonFrame frames lexeme.line lexeme.line

/-- Read a lexeme where the colon after a name should stand. -/
def stepColon (frames : List Frame) (line : Nat) (name : Option String) (lexeme : Lexeme) :
    Progress :=
  match frames with
  | .object opening members :: rest =>
    let frames := .member opening members ⟨line, name, lexeme.line, none⟩ :: rest
    if lexeme.token = .colon then .reading .value frames
    else abandonValue frames ⟨lexeme.line, false, lexeme.line, lexeme.line⟩
  | _ => abandonFrame frames lexeme.line lexeme.line

/-- Read a lexeme. -/
def step (progress : Progress) (lexeme : Lexeme) : Progress :=
  match progress with
  | .complete document none =>
    if lexeme.token = .finish then progress else .complete document (some lexeme.line)
  | .complete _ (some _) => progress
  | .abandoned _ => progress
  | .reading expected frames =>
    match expected with
    | .value => stepValue frames lexeme
    | .firstItem =>
      if lexeme.token = .closeArray then closeFrame frames lexeme.line
      else stepValue frames lexeme
    | .afterItem =>
      if lexeme.token = .closeArray then closeFrame frames lexeme.line
      else if lexeme.token = .comma then .reading .value frames
      else abandonFrame frames lexeme.line lexeme.line
    | .firstKey =>
      if lexeme.token = .closeObject then closeFrame frames lexeme.line
      else stepKey frames lexeme
    | .key => stepKey frames lexeme
    | .colon line name => stepColon frames line name lexeme
    | .afterMember =>
      if lexeme.token = .closeObject then closeFrame frames lexeme.line
      else if lexeme.token = .comma then .reading .key (noteComma frames lexeme.line)
      else abandonFrame frames lexeme.line lexeme.line

end Progress

/-- A text as a tree, and the line of what follows the tree, if anything does. -/
structure Reading where
  document : Document
  trailing : Option Nat

/-- The tree of a text. -/
def read (text : String) : Reading :=
  match (lexemes text.toList).foldl Progress.step (.reading .value []) with
  | .complete document trailing => ⟨document, trailing⟩
  | .abandoned document => ⟨document, none⟩
  | .reading _ frames => ⟨Progress.closeAll (.cut ⟨1, false, 1, 1⟩) frames, none⟩

end QueryModel.Json
