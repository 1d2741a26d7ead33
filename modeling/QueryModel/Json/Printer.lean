import QueryModel.Binary64.Layout
import QueryModel.Json.Basic

/-! # JSON text

Values are written compactly, without any blank, or in lines indented by two spaces.
-/

namespace QueryModel.Json

/-- Floating point text in JSON: plain from a hundred-thousandth up to sixteen digits before the
point, a point in every whole number, a sign before every exponent, ties to the even digit. -/
def layout : Binary64.Layout := ⟨some (-5), some 15, true, true, .even⟩

/-- The text of a number. -/
def Number.text : Number → List Char
  | .integer n => Text.numeral n
  | .float x => x.text layout

/-- A digit of lowercase hexadecimal. -/
def hexDigit (n : Nat) : Char := Nat.digitChar (n % 16)

/-- One character inside a string. -/
def stringChar (c : Char) : List Char :=
  if c = '"' then ['\\', '"']
  else if c = '\\' then ['\\', '\\']
  else if c = '\x08' then ['\\', 'b']
  else if c = '\x0c' then ['\\', 'f']
  else if c = '\n' then ['\\', 'n']
  else if c = '\r' then ['\\', 'r']
  else if c = '\t' then ['\\', 't']
  else if c.toNat < 0x20 then
    ['\\', 'u', '0', '0', hexDigit (c.toNat / 16), hexDigit c.toNat]
  else [c]

/-- The text of a string, its quotes included. -/
def stringText (text : String) : List Char :=
  '"' :: (text.toList.flatMap stringChar ++ ['"'])

/-- The text of a truth value. -/
def booleanText (value : Bool) : List Char :=
  (if value then "true" else "false").toList

mutual

/-- The text of a value without blanks. -/
def compactText : Json → List Char
  | .null => "null".toList
  | .boolean value => booleanText value
  | .number value => value.text
  | .string value => stringText value
  | .array items => '[' :: (compactItems items ++ [']'])
  | .object members => '\x7b' :: (compactMembers members ++ ['\x7d'])
termination_by structural value => value

/-- The items of an array, with commas between them. -/
def compactItems : List Json → List Char
  | [] => []
  | item :: rest =>
    compactText item ++ (if rest.isEmpty then [] else [',']) ++ compactItems rest
termination_by structural items => items

/-- The members of an object, with commas between them. -/
def compactMembers : List (String × Json) → List Char
  | [] => []
  | member :: rest =>
    compactMember member ++ (if rest.isEmpty then [] else [',']) ++ compactMembers rest
termination_by structural members => members

/-- A name, a colon and a value. -/
def compactMember : String × Json → List Char
  | (name, value) => stringText name ++ [':'] ++ compactText value
termination_by structural member => member

end

/-- The text of a value without blanks. -/
def compact (value : Json) : String := String.ofList (compactText value)

/-- A line break before a line at a depth. -/
def newline (depth : Nat) : List Char := '\n' :: List.replicate (2 * depth) ' '

mutual

/-- The text of a value in indented lines, the value itself standing at a depth. -/
def prettyText (depth : Nat) : Json → List Char
  | .null => "null".toList
  | .boolean value => booleanText value
  | .number value => value.text
  | .string value => stringText value
  | .array items =>
    '[' :: (prettyItems (depth + 1) items ++
      (if items.isEmpty then [] else newline depth) ++ [']'])
  | .object members =>
    '\x7b' :: (prettyMembers (depth + 1) members ++
      (if members.isEmpty then [] else newline depth) ++ ['\x7d'])
termination_by structural value => value

/-- The items of an array, each on a line of its own. -/
def prettyItems (depth : Nat) : List Json → List Char
  | [] => []
  | item :: rest =>
    newline depth ++ prettyText depth item ++ (if rest.isEmpty then [] else [',']) ++
      prettyItems depth rest
termination_by structural items => items

/-- The members of an object, each on a line of its own. -/
def prettyMembers (depth : Nat) : List (String × Json) → List Char
  | [] => []
  | member :: rest =>
    newline depth ++ prettyMember depth member ++ (if rest.isEmpty then [] else [',']) ++
      prettyMembers depth rest
termination_by structural members => members

/-- A name, a colon, a space and a value. -/
def prettyMember (depth : Nat) : String × Json → List Char
  | (name, value) => stringText name ++ [':', ' '] ++ prettyText depth value
termination_by structural member => member

end

/-- The text of a value in indented lines. -/
def pretty (value : Json) : String := String.ofList (prettyText 0 value)

end QueryModel.Json
