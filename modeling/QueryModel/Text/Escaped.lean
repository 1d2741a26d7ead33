import QueryModel.Unicode.Printable

/-! # Escaped text

A text in double quotes on one line: the quote, the backslash and the common controls are written
with a backslash, and every other character that does not print as its code point in hexadecimal.
-/

namespace QueryModel.Text

/-- A code point in lowercase hexadecimal, between braces. -/
def codePoint (c : Char) : List Char :=
  ['\\', 'u', '\x7b'] ++ Nat.toDigits 16 c.toNat ++ ['\x7d']

/-- One character of an escaped text. -/
def escapedChar (c : Char) : List Char :=
  if c = '"' then ['\\', '"']
  else if c = '\\' then ['\\', '\\']
  else if c = '\n' then ['\\', 'n']
  else if c = '\r' then ['\\', 'r']
  else if c = '\t' then ['\\', 't']
  else if c = '\x00' then ['\\', '0']
  else if Unicode.isPrintable c then [c]
  else codePoint c

/-- A text in double quotes, escaped. -/
def escaped (text : String) : String :=
  String.ofList ('"' :: (text.toList.flatMap escapedChar ++ ['"']))

end QueryModel.Text
