import QueryModel.Json.Lexeme

/-! # Reading lexemes

A machine that reads a JSON text one character at a time and emits its lexemes. Every character is
looked at once, and a number ends where the next character cannot continue it.
-/

namespace QueryModel.Json

/-- How much of a number has been read. -/
inductive NumberPart where
  | sign
  | zero
  | whole
  | point
  | fraction
  | exponentMark
  | exponentSign
  | exponent
deriving DecidableEq

/-- Whether a number may end here. -/
def NumberPart.isComplete : NumberPart → Bool
  | .zero | .whole | .fraction | .exponent => true
  | .sign | .point | .exponentMark | .exponentSign => false

/-- The part of a number that the next character continues with, if it does. -/
def NumberPart.next? (part : NumberPart) (c : Char) : Option NumberPart :=
  match part with
  | .sign => if c = '0' then some .zero else if c.isDigit then some .whole else none
  | .zero => afterWhole c
  | .whole => if c.isDigit then some .whole else afterWhole c
  | .point | .fraction =>
    if c.isDigit then some .fraction
    else if part = .fraction then exponentMark? c else none
  | .exponentMark =>
    if c = '+' ∨ c = '-' then some .exponentSign
    else if c.isDigit then some .exponent else none
  | .exponentSign | .exponent => if c.isDigit then some .exponent else none
where
  exponentMark? (c : Char) : Option NumberPart :=
    if c = 'e' ∨ c = 'E' then some .exponentMark else none
  afterWhole (c : Char) : Option NumberPart :=
    if c = '.' then some .point else exponentMark? c

/-- What has been read of a string. -/
structure PartialString where
  /-- The characters, last first. -/
  characters : List Char
  /-- The first half of a surrogate pair, when it has just been read. -/
  lead : Option Nat
  /-- The line at which taking the string has failed, if it has. -/
  fault : Option Nat
deriving DecidableEq

/-- The string before anything of it has been read. -/
def PartialString.empty : PartialString := ⟨[], none, none⟩

/-- The string with one more character. -/
def PartialString.push (text : PartialString) (c : Char) : PartialString :=
  { text with characters := c :: text.characters }

/-- Note that taking the string fails at a line, unless it has failed before. Half of a surrogate
pair that was waiting for the other half is dropped. -/
def PartialString.failAt (text : PartialString) (line : Nat) : PartialString :=
  { text with lead := none, fault := text.fault.orElse fun _ => some line }

/-- Note that what follows is not the second half of a surrogate pair, where one was due. -/
def PartialString.settle (text : PartialString) (line : Nat) : PartialString :=
  if text.lead.isSome then text.failAt line else text

/-- Add a sixteen-bit unit, which may be half of a surrogate pair. -/
def PartialString.pushUnit (text : PartialString) (line unit : Nat) : PartialString :=
  let isLead := 0xD800 ≤ unit ∧ unit < 0xDC00
  let isTrail := 0xDC00 ≤ unit ∧ unit < 0xE000
  match text.lead with
  | some lead =>
    if isTrail then
      { text with lead := none }.push
        (Char.ofNat (0x10000 + (lead - 0xD800) * 0x400 + (unit - 0xDC00)))
    else text.failAt line
  | none =>
    if isTrail then text.failAt line
    else if isLead then { text with lead := some unit }
    else text.push (Char.ofNat unit)

/-- The token of a complete string. -/
def PartialString.token (text : PartialString) : Token :=
  match text.fault with
  | none => .string (some (String.ofList text.characters.reverse))
  | some _ => .string none

/-- The token of a string that breaks off, with the lines at which taking it and passing over it
fail, unless taking it has failed before. -/
def PartialString.broken (text : PartialString) (readLine skipLine : Nat) : Token :=
  .broken true (text.fault.getD readLine) skipLine

/-- What a lexer is in the middle of. -/
inductive LexerMode where
  | between
  /-- The characters that have to follow for a word to be complete. -/
  | word (start : Nat) (expected : List Char) (token : Token)
  /-- The characters of a number, last first. -/
  | number (start : Nat) (part : NumberPart) (written : List Char)
  | string (start : Nat) (text : PartialString)
  | escape (start : Nat) (text : PartialString)
  /-- The characters of a hexadecimal escape, last first. -/
  | hexadecimal (start : Nat) (text : PartialString) (written : List Char)
  | stopped
deriving DecidableEq

/-- A lexer in the middle of a text. -/
structure Lexer where
  /-- The line of the next character. -/
  line : Nat
  mode : LexerMode
  /-- The lexemes so far, last first. -/
  lexemes : List Lexeme

namespace Lexer

/-- The lexer at the beginning of a text. -/
def start : Lexer := ⟨1, .between, []⟩

/-- Complete a lexeme. -/
def emit (lexer : Lexer) (line : Nat) (token : Token) : Lexer :=
  { lexer with mode := .between, lexemes := ⟨line, token⟩ :: lexer.lexemes }

/-- Give up: the text cannot be read further. -/
def stop (lexer : Lexer) (line : Nat) (token : Token) : Lexer :=
  { lexer with mode := .stopped, lexemes := ⟨line, token⟩ :: lexer.lexemes }

/-- Continue in another mode. -/
def enter (lexer : Lexer) (mode : LexerMode) : Lexer := { lexer with mode := mode }

/-- The line that a reader has reached after a character. -/
def lineAfter (lexer : Lexer) (c : Char) : Nat :=
  if c = '\n' then lexer.line + 1 else lexer.line

/-- Give up inside a word or a number because of a character that cannot follow. -/
def breakOff (lexer : Lexer) (c : Char) (start : Nat) : Lexer :=
  lexer.stop start (.broken false (lexer.lineAfter c) (lexer.lineAfter c))

/-- Read a character that begins a lexeme, or a blank. -/
def stepBetween (lexer : Lexer) (c : Char) : Lexer :=
  let line := lexer.line
  if c = '\x7b' then lexer.emit line .openObject
  else if c = '\x7d' then lexer.emit line .closeObject
  else if c = '[' then lexer.emit line .openArray
  else if c = ']' then lexer.emit line .closeArray
  else if c = ':' then lexer.emit line .colon
  else if c = ',' then lexer.emit line .comma
  else if c = '"' then lexer.enter (.string line .empty)
  else if c = 'n' then lexer.enter (.word line ['u', 'l', 'l'] .null)
  else if c = 't' then lexer.enter (.word line ['r', 'u', 'e'] (.boolean true))
  else if c = 'f' then lexer.enter (.word line ['a', 'l', 's', 'e'] (.boolean false))
  else if c = '-' then lexer.enter (.number line .sign [c])
  else if c = '0' then lexer.enter (.number line .zero [c])
  else if c.isDigit then lexer.enter (.number line .whole [c])
  else if c = ' ' ∨ c = '\t' ∨ c = '\n' ∨ c = '\r' then lexer.enter .between
  else lexer.stop line (.broken false line line)

/-- Read a character of a word. -/
def stepWord (lexer : Lexer) (c : Char) (start : Nat) (expected : List Char) (token : Token) :
    Lexer :=
  match expected with
  | [] => lexer.stop start (.broken false start start)
  | [last] => if c = last then lexer.emit start token else lexer.breakOff c start
  | next :: rest =>
    if c = next then lexer.enter (.word start rest token) else lexer.breakOff c start

/-- Read a character of a number, or the character behind it. -/
def stepNumber (lexer : Lexer) (c : Char) (start : Nat) (part : NumberPart)
    (written : List Char) : Lexer :=
  match part.next? c with
  | some next => lexer.enter (.number start next (c :: written))
  | none =>
    if part = .zero ∧ c.isDigit then lexer.breakOff c start
    else if part.isComplete then (lexer.emit start (.number written.reverse)).stepBetween c
    else lexer.breakOff c start

/-- Read a character between the quotes of a string, or the closing quote. -/
def stepString (lexer : Lexer) (c : Char) (start : Nat) (text : PartialString) : Lexer :=
  if c = '\\' then lexer.enter (.escape start text)
  else
    let text := text.settle (lexer.lineAfter c)
    if c = '"' then lexer.emit start text.token
    else if c.toNat < 0x20 then lexer.stop start (text.broken (lexer.lineAfter c) lexer.line)
    else lexer.enter (.string start (text.push c))

/-- The character that a one-letter escape stands for. -/
def escapedChar? (c : Char) : Option Char :=
  if c = '"' ∨ c = '\\' ∨ c = '/' then some c
  else if c = 'b' then some '\x08'
  else if c = 'f' then some '\x0c'
  else if c = 'n' then some '\n'
  else if c = 'r' then some '\r'
  else if c = 't' then some '\t'
  else none

/-- Read the character after a backslash. -/
def stepEscape (lexer : Lexer) (c : Char) (start : Nat) (text : PartialString) : Lexer :=
  if c = 'u' then lexer.enter (.hexadecimal start text [])
  else
    let line := lexer.lineAfter c
    let text := text.settle line
    match escapedChar? c with
    | some escaped => lexer.enter (.string start (text.push escaped))
    | none => lexer.stop start (text.broken line line)

/-- The value of a hexadecimal digit of either case. -/
def hexDigit? (c : Char) : Option Nat :=
  if c.isDigit then some (c.toNat - '0'.toNat)
  else if 'a' ≤ c ∧ c ≤ 'f' then some (c.toNat - 'a'.toNat + 10)
  else if 'A' ≤ c ∧ c ≤ 'F' then some (c.toNat - 'A'.toNat + 10)
  else none

/-- The value of four hexadecimal digits. -/
def hexUnit? (digits : List Char) : Option Nat :=
  if digits.length = 4 then
    (digits.mapM hexDigit?).map (·.foldl (fun value digit => 16 * value + digit) 0)
  else none

/-- Read a character of a hexadecimal escape, which takes up four bytes of the text. -/
def stepHexadecimal (lexer : Lexer) (c : Char) (start : Nat) (text : PartialString)
    (written : List Char) : Lexer :=
  let written := c :: written
  if written.foldl (fun size c => size + c.utf8Size) 0 < 4 then
    lexer.enter (.hexadecimal start text written)
  else
    let line := lexer.lineAfter c
    match hexUnit? written.reverse with
    | some unit => lexer.enter (.string start (text.pushUnit line unit))
    | none => lexer.stop start (text.broken line line)

/-- Read one character. -/
def step (lexer : Lexer) (c : Char) : Lexer :=
  let next :=
    match lexer.mode with
    | .between => lexer.stepBetween c
    | .word start expected token => lexer.stepWord c start expected token
    | .number start part written => lexer.stepNumber c start part written
    | .string start text => lexer.stepString c start text
    | .escape start text => lexer.stepEscape c start text
    | .hexadecimal start text written => lexer.stepHexadecimal c start text written
    | .stopped => lexer
  { next with line := lexer.lineAfter c }

/-- What is left unfinished at the end of the text. -/
def finish (lexer : Lexer) : Lexer :=
  let line := lexer.line
  match lexer.mode with
  | .between => lexer
  | .word start _ _ => lexer.stop start (.broken false line line)
  | .number start part written =>
    if part.isComplete then lexer.emit start (.number written.reverse)
    else lexer.stop start (.broken false line line)
  | .string start text | .escape start text | .hexadecimal start text _ =>
    lexer.stop start (text.broken line line)
  | .stopped => lexer

end Lexer

/-- The lexemes of a text, the last of which is its end. -/
def lexemes (text : List Char) : List Lexeme :=
  let lexer := (text.foldl Lexer.step .start).finish
  (⟨lexer.line, .finish⟩ :: lexer.lexemes).reverse

end QueryModel.Json
