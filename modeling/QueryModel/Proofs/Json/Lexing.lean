import QueryModel.Json.Lexer
import QueryModel.Json.Printer

/-! # Texts that spell tokens

A text spells tokens if it is made of their words, in order, with blanks wherever there are any. A
number is followed by a character that cannot continue it. Main statement: the lexemes of a text
that spells tokens are those tokens.
-/

namespace QueryModel.Json

/-! ## Words -/

/-- How much of a number has been read after some more characters, as long as it goes on. -/
def NumberPart.run? (part : NumberPart) : List Char → Option NumberPart
  | [] => some part
  | c :: rest => (part.next? c).bind fun next => next.run? rest

/-- How much of a number has been read after its first character. -/
def NumberPart.first? (c : Char) : Option NumberPart :=
  if c = '-' then some .sign else NumberPart.next? .sign c

/-- A text that is read as a number to its end. -/
def IsNumberText (text : List Char) : Prop :=
  ∃ first rest part last, text = first :: rest ∧ NumberPart.first? first = some part ∧
    part.run? rest = some last ∧ last.isComplete

/-- `token.IsSpelled word`: the token is read from the word. -/
inductive Token.IsSpelled : Token → List Char → Prop
  | openObject : IsSpelled .openObject ['\x7b']
  | closeObject : IsSpelled .closeObject ['\x7d']
  | openArray : IsSpelled .openArray ['[']
  | closeArray : IsSpelled .closeArray [']']
  | colon : IsSpelled .colon [':']
  | comma : IsSpelled .comma [',']
  | null : IsSpelled .null ['n', 'u', 'l', 'l']
  | boolean (value : Bool) : IsSpelled (.boolean value) (booleanText value)
  | number {written : List Char} (hwritten : IsNumberText written) :
      IsSpelled (.number written) written
  | string (value : String) : IsSpelled (.string (some value)) (stringText value)

theorem Token.IsSpelled.exists_cons {token : Token} {word : List Char}
    (htoken : token.IsSpelled word) : ∃ c rest, word = c :: rest := by
  cases htoken with
  | boolean value => cases value <;> exact ⟨_, _, rfl⟩
  | number hwritten =>
    obtain ⟨first, rest, _, _, rfl, -⟩ := hwritten
    exact ⟨first, rest, rfl⟩
  | _ => exact ⟨_, _, rfl⟩

/-- Whether a token is a number. -/
def Token.isNumber : Token → Bool
  | .number _ => true
  | _ => false

/-- A character that can stand behind a number. -/
def EndsNumber (c : Char) : Prop := c ∈ [',', ']', '\x7d', '\n']

theorem EndsNumber.next?_eq {c : Char} (hc : EndsNumber c) (part : NumberPart) :
    part.next? c = none ∧ c.isDigit = false := by
  have hcases : c = ',' ∨ c = ']' ∨ c = '\x7d' ∨ c = '\n' := by simpa [EndsNumber] using hc
  rcases hcases with rfl | rfl | rfl | rfl <;> cases part <;> exact ⟨rfl, rfl⟩

/-- `Spelled tokens text`: the text consists of the words of the tokens, and of blanks. -/
inductive Spelled : List Token → List Char → Prop
  | nil : Spelled [] []
  | blank {tokens : List Token} {text : List Char} {c : Char} (hc : c = ' ' ∨ c = '\n')
      (htext : Spelled tokens text) : Spelled tokens (c :: text)
  | word {token : Token} {word : List Char} {tokens : List Token} {text : List Char}
      (htoken : token.IsSpelled word)
      (hend : token.isNumber → ∀ c ∈ text.head?, EndsNumber c) (htext : Spelled tokens text) :
      Spelled (token :: tokens) (word ++ text)

namespace Lexer

/-! ## Characters of strings -/

/-- A character in a string is written with a mark behind a backslash, by its code, or as it is. -/
theorem stringChar_cases (c : Char) :
    (∃ mark, stringChar c = ['\\', mark] ∧ escapedChar? mark = some c ∧ mark ≠ 'u') ∨
      (c.toNat < 32 ∧
        stringChar c = ['\\', 'u', '0', '0', hexDigit (c.toNat / 16), hexDigit c.toNat]) ∨
        (c ≠ '"' ∧ c ≠ '\\' ∧ ¬ c.toNat < 32 ∧ stringChar c = [c]) := by
  unfold stringChar
  iterate 7
    split
    · next hc =>
      subst hc
      exact Or.inl ⟨_, rfl, rfl, by decide⟩
  split
  · next hcontrol => exact Or.inr (Or.inl ⟨hcontrol, rfl⟩)
  · next hquote hslash _ _ _ _ _ hcontrol =>
    exact Or.inr (Or.inr ⟨hquote, hslash, hcontrol, rfl⟩)

/-- The code of a control character in four hexadecimal digits. -/
theorem hexUnit?_control {n : Nat} (hn : n < 32) :
    hexUnit? ['0', '0', hexDigit (n / 16), hexDigit n] = some n := by
  revert n
  decide

theorem utf8Size_hexDigit (n : Nat) : (hexDigit n).utf8Size = 1 := by
  have hlt : n % 16 < 16 := Nat.mod_lt _ (by decide)
  unfold hexDigit
  revert hlt
  generalize n % 16 = digit
  revert digit
  decide

/-! ## Lexers -/

/-- The tokens that have been read. -/
def tokens (lexer : Lexer) : List Token := (lexer.lexemes.map Lexeme.token).reverse

/-- `lexer.IsAt mode tokens`: the lexer has read the tokens and is in the mode. -/
structure IsAt (lexer : Lexer) (mode : LexerMode) (tokens : List Token) : Prop where
  mode_eq : lexer.mode = mode
  tokens_eq : lexer.tokens = tokens

/-- Read several characters. -/
def run (lexer : Lexer) (text : List Char) : Lexer := text.foldl step lexer

theorem run_append (lexer : Lexer) (left right : List Char) :
    lexer.run (left ++ right) = (lexer.run left).run right := List.foldl_append ..

variable {lexer : Lexer} {done : List Token} {start : Nat}

theorem isAt_emit (lexer : Lexer) (line : Nat) (token : Token) :
    (lexer.emit line token).IsAt .between (lexer.tokens ++ [token]) :=
  ⟨rfl, by simp [emit, tokens]⟩

theorem isAt_enter (lexer : Lexer) (mode : LexerMode) : (lexer.enter mode).IsAt mode lexer.tokens :=
  ⟨rfl, rfl⟩

namespace IsAt

variable {mode : LexerMode} {c : Char}

/-- The line of the next character is no part of where a lexer is. -/
theorem withLine (hlexer : lexer.IsAt mode done) (line : Nat) :
    { lexer with line := line }.IsAt mode done :=
  ⟨hlexer.mode_eq, hlexer.tokens_eq⟩

theorem emit (hlexer : lexer.IsAt mode done) (line : Nat) (token : Token) :
    (lexer.emit line token).IsAt .between (done ++ [token]) :=
  hlexer.tokens_eq ▸ isAt_emit lexer line token

theorem enter (hlexer : lexer.IsAt mode done) (next : LexerMode) :
    (lexer.enter next).IsAt next done := hlexer.tokens_eq ▸ isAt_enter lexer next

/-! ## Marks and words -/

theorem step_between (hlexer : lexer.IsAt .between done) {tokens : List Token}
    (hstep : (lexer.stepBetween c).IsAt mode tokens) : (lexer.step c).IsAt mode tokens := by
  unfold step
  rw [hlexer.mode_eq]
  exact hstep.withLine _

/-- A blank is passed over. -/
theorem step_blank (hlexer : lexer.IsAt .between done) (hc : c = ' ' ∨ c = '\n') :
    (lexer.step c).IsAt .between done := by
  obtain rfl | rfl := hc
  · exact hlexer.step_between (hlexer.enter _)
  · exact hlexer.step_between (hlexer.enter _)

/-- The rest of a word is read to its end. -/
theorem run_word {next : Char} {rest : List Char} {token : Token}
    (hlexer : lexer.IsAt (.word start (next :: rest) token) done) :
    (lexer.run (next :: rest)).IsAt .between (done ++ [token]) := by
  induction rest generalizing lexer next with
  | nil =>
    change (lexer.step next).IsAt _ _
    unfold step
    rw [hlexer.mode_eq]
    simpa [stepWord] using (hlexer.emit start token).withLine _
  | cons second rest ih =>
    have hnext : (lexer.step next).IsAt (.word start (second :: rest) token) done := by
      unfold step
      rw [hlexer.mode_eq]
      simpa [stepWord] using (hlexer.enter (.word start (second :: rest) token)).withLine _
    exact ih hnext

/-! ## Numbers -/

/-- The rest of a number is read as long as it goes on. -/
theorem run_number {part last : NumberPart} {written rest : List Char}
    (hlexer : lexer.IsAt (.number start part written) done) (hrest : part.run? rest = some last) :
    (lexer.run rest).IsAt (.number start last (rest.reverse ++ written)) done := by
  induction rest generalizing lexer part written with
  | nil =>
    cases hrest
    exact hlexer
  | cons c rest ih =>
    obtain ⟨next, hnext, hrest⟩ := Option.bind_eq_some_iff.mp hrest
    have hstep : (lexer.step c).IsAt (.number start next (c :: written)) done := by
      unfold step
      rw [hlexer.mode_eq]
      simpa [stepNumber, hnext] using (hlexer.enter (.number start next (c :: written))).withLine _
    rw [List.reverse_cons, List.append_assoc]
    exact ih hstep hrest

/-- A number begins with a minus sign or a digit, and nothing else does. -/
theorem step_firstOfNumber {part : NumberPart} (hlexer : lexer.IsAt .between done)
    (hfirst : NumberPart.first? c = some part) :
    (lexer.step c).IsAt (.number lexer.line part [c]) done := by
  refine hlexer.step_between ?_
  unfold NumberPart.first? NumberPart.next? at hfirst
  split at hfirst
  · next hminus =>
    obtain rfl := hminus
    cases hfirst
    exact hlexer.enter _
  · next hminus =>
    dsimp only at hfirst
    split at hfirst
    · next hzero =>
      obtain rfl := hzero
      cases hfirst
      exact hlexer.enter _
    · next hzero =>
      split at hfirst
      · next hdigit =>
        cases hfirst
        have hne (d : Char) (hd : d.isDigit = false) : c ≠ d := by
          rintro rfl
          exact Bool.noConfusion (hd.symm.trans hdigit)
        have hstep : lexer.stepBetween c = lexer.enter (.number lexer.line .whole [c]) := by
          simp [stepBetween, hne '\x7b' rfl, hne '\x7d' rfl, hne '[' rfl, hne ']' rfl, hne ':' rfl,
            hne ',' rfl, hne '"' rfl, hne 'n' rfl, hne 't' rfl, hne 'f' rfl, hminus, hzero, hdigit]
        exact hstep ▸ hlexer.enter _
      · cases hfirst

/-! ## Strings -/

/-- A string of which some characters have been read, the last of them first. -/
def partialString (characters : List Char) : PartialString := ⟨characters, none, none⟩

theorem step_string {characters : List Char} {tokens : List Token}
    (hlexer : lexer.IsAt (.string start (partialString characters)) done)
    (hstep : (lexer.stepString c start (partialString characters)).IsAt mode tokens) :
    (lexer.step c).IsAt mode tokens := by
  unfold step
  rw [hlexer.mode_eq]
  exact hstep.withLine _

theorem step_escape {characters : List Char} {tokens : List Token}
    (hlexer : lexer.IsAt (.escape start (partialString characters)) done)
    (hstep : (lexer.stepEscape c start (partialString characters)).IsAt mode tokens) :
    (lexer.step c).IsAt mode tokens := by
  unfold step
  rw [hlexer.mode_eq]
  exact hstep.withLine _

theorem step_hexadecimal {characters written : List Char} {tokens : List Token}
    (hlexer : lexer.IsAt (.hexadecimal start (partialString characters) written) done)
    (hstep : (lexer.stepHexadecimal c start (partialString characters) written).IsAt mode tokens) :
    (lexer.step c).IsAt mode tokens := by
  unfold step
  rw [hlexer.mode_eq]
  exact hstep.withLine _

/-- A character behind a backslash. -/
theorem run_escape {characters : List Char} {escaped : Char}
    (hlexer : lexer.IsAt (.string start (partialString characters)) done)
    (hc : escapedChar? c = some escaped) (hu : c ≠ 'u') :
    (lexer.run ['\\', c]).IsAt (.string start (partialString (escaped :: characters))) done := by
  have hslash : (lexer.step '\\').IsAt (.escape start (partialString characters)) done :=
    hlexer.step_string (hlexer.enter _)
  refine hslash.step_escape ?_
  simpa [stepEscape, hu, hc, PartialString.settle, partialString, PartialString.push] using
    hslash.enter (.string start (partialString (escaped :: characters)))

/-- One of the first three digits of a hexadecimal escape. -/
theorem step_hexDigit {characters written : List Char}
    (hlexer : lexer.IsAt (.hexadecimal start (partialString characters) written) done)
    (hsize : (c :: written).foldl (fun size c => size + c.utf8Size) 0 < 4) :
    (lexer.step c).IsAt (.hexadecimal start (partialString characters) (c :: written)) done := by
  refine hlexer.step_hexadecimal ?_
  unfold stepHexadecimal
  dsimp only
  rw [if_pos hsize]
  exact hlexer.enter _

/-- A control character that is written in hexadecimal. -/
theorem run_hexadecimal {characters : List Char} (hc : c.toNat < 32)
    (hlexer : lexer.IsAt (.string start (partialString characters)) done) :
    (lexer.run ['\\', 'u', '0', '0', hexDigit (c.toNat / 16), hexDigit c.toNat]).IsAt
      (.string start (partialString (c :: characters))) done := by
  have hslash : (lexer.step '\\').IsAt (.escape start (partialString characters)) done :=
    hlexer.step_string (hlexer.enter _)
  have hmark := hslash.step_escape (c := 'u') (hslash.enter (.hexadecimal start _ []))
  have hfirst := hmark.step_hexDigit (c := '0') (by decide)
  have hsecond := hfirst.step_hexDigit (c := '0') (by decide)
  have hzero : '0'.utf8Size = 1 := rfl
  have hthird := hsecond.step_hexDigit (c := hexDigit (c.toNat / 16))
    (by simp [utf8Size_hexDigit, hzero])
  refine hthird.step_hexadecimal (c := hexDigit c.toNat) ?_
  have hunit := hexUnit?_control hc
  have hlead : ¬ 55296 ≤ c.toNat := by omega
  have htrail : ¬ 56320 ≤ c.toNat := by omega
  simpa [stepHexadecimal, utf8Size_hexDigit, hzero, hunit, PartialString.pushUnit,
    partialString, PartialString.push, hlead, htrail] using
    hthird.enter (.string start (partialString (c :: characters)))

/-- Every character of a string is read back as itself. -/
theorem run_stringChar {characters : List Char} (c : Char)
    (hlexer : lexer.IsAt (.string start (partialString characters)) done) :
    (lexer.run (stringChar c)).IsAt (.string start (partialString (c :: characters))) done := by
  rcases stringChar_cases c with ⟨mark, htext, hmark, hu⟩ | ⟨hcontrol, htext⟩ |
    ⟨hquote, hslash, hcontrol, htext⟩
  · rw [htext]
    exact hlexer.run_escape hmark hu
  · rw [htext]
    exact hlexer.run_hexadecimal hcontrol
  · rw [htext]
    refine hlexer.step_string ?_
    simpa [stepString, hquote, hslash, hcontrol, PartialString.settle, partialString,
      PartialString.push] using hlexer.enter (.string start (partialString (c :: characters)))

theorem run_characters {characters : List Char} (text : List Char)
    (hlexer : lexer.IsAt (.string start (partialString characters)) done) :
    (lexer.run (text.flatMap stringChar)).IsAt
      (.string start (partialString (text.reverse ++ characters))) done := by
  induction text generalizing lexer characters with
  | nil => exact hlexer
  | cons c rest ih =>
    rw [List.flatMap_cons, run_append, List.reverse_cons, List.append_assoc]
    exact ih (hlexer.run_stringChar c)

/-- A string is read back as itself. -/
theorem run_stringText (text : String) (hlexer : lexer.IsAt .between done) :
    (lexer.run (stringText text)).IsAt .between (done ++ [.string (some text)]) := by
  have hopened : (lexer.step '"').IsAt (.string lexer.line (partialString [])) done :=
    hlexer.step_between (hlexer.enter _)
  have hread := hopened.run_characters text.toList
  change (((lexer.step '"').run (text.toList.flatMap stringChar ++ ['"'])).IsAt _ _)
  rw [run_append]
  refine hread.step_string (c := '"') ?_
  simpa [stepString, PartialString.settle, partialString, PartialString.token] using
    hread.emit lexer.line (.string (some text))

/-- The word of a token other than a number is read as the token. -/
theorem run_spelledWord {token : Token} {word : List Char} (hlexer : lexer.IsAt .between done)
    (htoken : token.IsSpelled word) (hnumber : token.isNumber = false) :
    (lexer.run word).IsAt .between (done ++ [token]) := by
  cases htoken with
  | openObject => exact hlexer.step_between (hlexer.emit _ _)
  | closeObject => exact hlexer.step_between (hlexer.emit _ _)
  | openArray => exact hlexer.step_between (hlexer.emit _ _)
  | closeArray => exact hlexer.step_between (hlexer.emit _ _)
  | colon => exact hlexer.step_between (hlexer.emit _ _)
  | comma => exact hlexer.step_between (hlexer.emit _ _)
  | null => exact (hlexer.step_between (c := 'n') (hlexer.enter _)).run_word
  | boolean value =>
    cases value with
    | true => exact (hlexer.step_between (c := 't') (hlexer.enter _)).run_word
    | false => exact (hlexer.step_between (c := 'f') (hlexer.enter _)).run_word
  | number => cases hnumber
  | string text => exact hlexer.run_stringText text

end IsAt

/-! ## Texts -/

/-- The tokens have been read. A number at the end of them may still go on. -/
inductive HasRead (lexer : Lexer) : List Token → Prop
  | between {tokens : List Token} (hlexer : lexer.IsAt .between tokens) : HasRead lexer tokens
  | number {tokens : List Token} {start : Nat} {part : NumberPart} {written : List Char}
      (hlexer : lexer.IsAt (.number start part written) tokens) (hpart : part.isComplete) :
      HasRead lexer (tokens ++ [.number written.reverse])

namespace HasRead

/-- Before a character that ends a number, nothing needs to be known but the tokens. -/
theorem exists_between (hlexer : lexer.HasRead done) {c : Char}
    (hend : lexer.mode ≠ .between → EndsNumber c) :
    ∃ between : Lexer, between.IsAt .between done ∧ lexer.step c = between.step c := by
  cases hlexer with
  | between hlexer => exact ⟨lexer, hlexer, rfl⟩
  | @number tokens start part written hlexer hpart =>
    refine ⟨lexer.emit start (.number written.reverse), hlexer.emit _ _, ?_⟩
    have hmode : lexer.mode ≠ .between := by simp [hlexer.mode_eq]
    obtain ⟨hnext, hdigit⟩ := (hend hmode).next?_eq part
    simp only [step, hlexer.mode_eq, stepNumber, hnext, hdigit, hpart, if_true, Bool.false_eq_true,
      and_false, if_false]
    rfl

/-- A word is read, whatever has been read before. -/
theorem run_word {token : Token} {word : List Char} (hlexer : lexer.IsAt .between done)
    (htoken : token.IsSpelled word) :
    (lexer.run word).HasRead (done ++ [token]) ∧
      ((lexer.run word).mode ≠ .between → token.isNumber) := by
  cases hnumber : token.isNumber with
  | false =>
    have hword := hlexer.run_spelledWord htoken hnumber
    exact ⟨.between hword, fun hmode => (hmode hword.mode_eq).elim⟩
  | true =>
    refine ⟨?_, fun _ => rfl⟩
    cases htoken with
    | number hwritten =>
      obtain ⟨first, rest, part, last, rfl, hfirst, hrest, hlast⟩ := hwritten
      have hread := (hlexer.step_firstOfNumber hfirst).run_number hrest
      have hdone := HasRead.number hread hlast
      rwa [List.reverse_append, List.reverse_reverse] at hdone
    | _ => cases hnumber

end HasRead

/-- A text that spells tokens is read as the tokens. -/
theorem HasRead.run_spelled {tokens : List Token} {text : List Char} (htext : Spelled tokens text)
    {lexer : Lexer} {done : List Token} (hlexer : lexer.HasRead done)
    (hend : lexer.mode ≠ .between → ∀ c ∈ text.head?, EndsNumber c) :
    (lexer.run text).HasRead (done ++ tokens) := by
  induction htext generalizing lexer done with
  | nil => exact (List.append_nil done).symm ▸ hlexer
  | @blank tokens text c hc htext ih =>
    obtain ⟨between, hbetween, hstep⟩ := hlexer.exists_between fun hmode => hend hmode c rfl
    have hread := hbetween.step_blank hc
    rw [← hstep] at hread
    exact ih (.between hread) fun hmode => (hmode hread.mode_eq).elim
  | @word token word tokens text htoken hend' htext ih =>
    obtain ⟨c, rest, rfl⟩ := htoken.exists_cons
    obtain ⟨between, hbetween, hstep⟩ := hlexer.exists_between fun hmode => hend hmode c rfl
    have hrun : lexer.run (c :: rest ++ text) = (between.run (c :: rest)).run text := by
      rw [← run_append]
      exact congrArg (run · (rest ++ text)) hstep
    obtain ⟨hread, hnumber⟩ := run_word hbetween htoken
    rw [hrun, List.append_cons]
    exact ih hread fun hmode => hend' (hnumber hmode)

end Lexer

/-- The lexemes of a text that spells tokens are these tokens, and the end of the text. -/
theorem Spelled.lexemes_eq {tokens : List Token} {text : List Char} (htext : Spelled tokens text) :
    ∃ line read, lexemes text = read ++ [⟨line, .finish⟩] ∧ read.map Lexeme.token = tokens := by
  have hstart : Lexer.start.HasRead [] := .between ⟨rfl, rfl⟩
  have hread := hstart.run_spelled htext fun hmode => (hmode rfl).elim
  refine ⟨_, (Lexer.start.run text).finish.lexemes.reverse, List.reverse_cons, ?_⟩
  rw [List.map_reverse]
  change (Lexer.start.run text).finish.tokens = tokens
  rw [List.nil_append] at hread
  generalize Lexer.start.run text = lexer at hread
  cases hread with
  | between hlexer =>
    unfold Lexer.finish
    rw [hlexer.mode_eq]
    exact hlexer.tokens_eq
  | number hlexer hpart =>
    unfold Lexer.finish
    simp only [hlexer.mode_eq, hpart, if_true]
    exact (hlexer.emit _ _).tokens_eq

end QueryModel.Json
