/-! # JSON lexemes

A JSON text as a sequence of tokens, each with the line it begins on. Lines are counted from one. A
text that is no JSON has lexemes too: they end with a broken one, which says on which line a reader
stops. A reader that passes over a string without taking its value stops later than one that takes
it, so a broken lexeme has a line for each.
-/

namespace QueryModel.Json

/-- A piece of a JSON text. -/
inductive Token where
  | openObject
  | closeObject
  | openArray
  | closeArray
  | colon
  | comma
  | null
  | boolean (value : Bool)
  /-- A number, as it is written. -/
  | number (written : List Char)
  /-- A string; without a value if it holds half of a surrogate pair. -/
  | string (value : Option String)
  /-- A piece that cannot be read, with the line at which taking it fails and the line at which
  passing over it fails. -/
  | broken (quoted : Bool) (readLine skipLine : Nat)
  /-- The end of the text. -/
  | finish
deriving DecidableEq

/-- A token and the line it begins on. -/
structure Lexeme where
  line : Nat
  token : Token
deriving DecidableEq

end QueryModel.Json
