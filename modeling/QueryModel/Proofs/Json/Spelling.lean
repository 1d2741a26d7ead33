import QueryModel.Proofs.Json.Numbers

/-! # Printed values spell their tokens

The tokens of a value, and that both printers spell them: without any blank, and in indented lines.
-/

namespace QueryModel.Json

/-! ## The tokens of a value -/

mutual

/-- The tokens of a value. -/
def tokens : Json → List Token
  | .null => [.null]
  | .boolean value => [.boolean value]
  | .number value => [.number value.text]
  | .string value => [.string (some value)]
  | .array items => .openArray :: (itemTokens items ++ [.closeArray])
  | .object members => .openObject :: (memberTokens members ++ [.closeObject])
termination_by structural value => value

/-- The tokens of the items of an array, with commas between them. -/
def itemTokens : List Json → List Token
  | [] => []
  | item :: rest => item.tokens ++ (if rest.isEmpty then [] else [.comma]) ++ itemTokens rest
termination_by structural items => items

/-- The tokens of the members of an object, with commas between them. -/
def memberTokens : List (String × Json) → List Token
  | [] => []
  | member :: rest =>
    nameTokens member ++ (if rest.isEmpty then [] else [.comma]) ++ memberTokens rest
termination_by structural members => members

/-- The tokens of a name, a colon and a value. -/
def nameTokens : String × Json → List Token
  | (name, value) => .string (some name) :: .colon :: value.tokens
termination_by structural member => member

end

/-! ## What can follow a value -/

/-- A text that spells tokens and can stand behind any value, numbers included. -/
structure Follows (tokens : List Token) (text : List Char) : Prop where
  spelled : Spelled tokens text
  ends : ∀ c ∈ text.head?, EndsNumber c

variable {tokens : List Token} {text : List Char}

namespace Follows

theorem nil : Follows [] [] := ⟨.nil, nofun⟩

theorem comma (htext : Spelled tokens text) : Follows (.comma :: tokens) (',' :: text) :=
  ⟨.word .comma nofun htext, by simp [EndsNumber]⟩

theorem closeArray (htext : Spelled tokens text) : Follows (.closeArray :: tokens) (']' :: text) :=
  ⟨.word .closeArray nofun htext, by simp [EndsNumber]⟩

theorem closeObject (htext : Spelled tokens text) :
    Follows (.closeObject :: tokens) ('\x7d' :: text) :=
  ⟨.word .closeObject nofun htext, by simp [EndsNumber]⟩

/-- A line break and the indentation behind it are blanks. -/
theorem newline (depth : Nat) (htext : Spelled tokens text) :
    Follows tokens (Json.newline depth ++ text) := by
  have hspaces (count : Nat) : Spelled tokens (List.replicate count ' ' ++ text) := by
    induction count with
    | zero => exact htext
    | succ count ih => exact .blank (Or.inl rfl) ih
  exact ⟨.blank (Or.inr rfl) (hspaces _), by simp [Json.newline, EndsNumber]⟩

end Follows

/-- A name and a colon. -/
theorem spelled_name (name : String) (htext : Spelled tokens text) :
    Spelled (.string (some name) :: .colon :: tokens) (stringText name ++ ':' :: text) :=
  .word (.string name) nofun (.word .colon nofun htext)

theorem spelled_number (number : Number) (htext : Follows tokens text) :
    Spelled (.number number.text :: tokens) (number.text ++ text) :=
  .word (.number number.isNumberText) (fun _ => htext.ends) htext.spelled

/-! ## Values without blanks -/

mutual

/-- The text of a value spells its tokens. What stands behind has to end a number, in case the value
is one. -/
theorem spelled_compactText {tokens : List Token} {text : List Char} (value : Json)
    (htext : Follows tokens text) :
    Spelled (value.tokens ++ tokens) (compactText value ++ text) := by
  cases value with
  | null => exact .word .null nofun htext.spelled
  | boolean value => exact .word (.boolean value) nofun htext.spelled
  | number number => exact spelled_number number htext
  | string value => exact .word (.string value) nofun htext.spelled
  | array items =>
    have hitems := spelled_compactItems items (.closeArray htext.spelled)
    simpa [Json.tokens, compactText] using Spelled.word .openArray nofun hitems
  | object members =>
    have hmembers := spelled_compactMembers members (.closeObject htext.spelled)
    simpa [Json.tokens, compactText] using Spelled.word .openObject nofun hmembers
termination_by structural value

theorem spelled_compactItems {tokens : List Token} {text : List Char} (items : List Json)
    (htext : Follows tokens text) :
    Spelled (itemTokens items ++ tokens) (compactItems items ++ text) := by
  cases items with
  | nil => exact htext.spelled
  | cons item rest =>
    have hrest := spelled_compactItems rest htext
    cases rest with
    | nil => simpa [itemTokens, compactItems] using spelled_compactText item htext
    | cons second others =>
      simpa [itemTokens, compactItems] using spelled_compactText item (.comma hrest)
termination_by structural items

theorem spelled_compactMembers {tokens : List Token} {text : List Char}
    (members : List (String × Json)) (htext : Follows tokens text) :
    Spelled (memberTokens members ++ tokens) (compactMembers members ++ text) := by
  cases members with
  | nil => exact htext.spelled
  | cons member rest =>
    have hrest := spelled_compactMembers rest htext
    cases rest with
    | nil => simpa [memberTokens, compactMembers] using spelled_compactMember member htext
    | cons second others =>
      simpa [memberTokens, compactMembers] using spelled_compactMember member (.comma hrest)
termination_by structural members

theorem spelled_compactMember {tokens : List Token} {text : List Char} (member : String × Json)
    (htext : Follows tokens text) :
    Spelled (nameTokens member ++ tokens) (compactMember member ++ text) := by
  obtain ⟨name, value⟩ := member
  simpa [nameTokens, compactMember] using spelled_name name (spelled_compactText value htext)
termination_by structural member

end

/-! ## Values in indented lines -/

mutual

theorem spelled_prettyText {tokens : List Token} {text : List Char} (depth : Nat) (value : Json)
    (htext : Follows tokens text) :
    Spelled (value.tokens ++ tokens) (prettyText depth value ++ text) := by
  cases value with
  | null => exact .word .null nofun htext.spelled
  | boolean value => exact .word (.boolean value) nofun htext.spelled
  | number number => exact spelled_number number htext
  | string value => exact .word (.string value) nofun htext.spelled
  | array items =>
    have hclose : Follows (.closeArray :: tokens)
        ((if items.isEmpty then [] else newline depth) ++ ']' :: text) := by
      split
      · exact .closeArray htext.spelled
      · exact .newline depth (Follows.closeArray htext.spelled).spelled
    have hitems := (follows_prettyItems (depth + 1) items hclose).spelled
    simpa [Json.tokens, prettyText] using Spelled.word .openArray nofun hitems
  | object members =>
    have hclose : Follows (.closeObject :: tokens)
        ((if members.isEmpty then [] else newline depth) ++ '\x7d' :: text) := by
      split
      · exact .closeObject htext.spelled
      · exact .newline depth (Follows.closeObject htext.spelled).spelled
    have hmembers := (follows_prettyMembers (depth + 1) members hclose).spelled
    simpa [Json.tokens, prettyText] using Spelled.word .openObject nofun hmembers
termination_by structural value

/-- In lines every item begins with a line break, so that the items themselves can stand behind any
value. -/
theorem follows_prettyItems {tokens : List Token} {text : List Char} (depth : Nat)
    (items : List Json) (htext : Follows tokens text) :
    Follows (itemTokens items ++ tokens) (prettyItems depth items ++ text) := by
  cases items with
  | nil => exact htext
  | cons item rest =>
    have hrest := follows_prettyItems depth rest htext
    cases rest with
    | nil =>
      simpa [itemTokens, prettyItems] using
        Follows.newline depth (spelled_prettyText depth item htext)
    | cons second others =>
      simpa [itemTokens, prettyItems] using
        Follows.newline depth (spelled_prettyText depth item (.comma hrest.spelled))
termination_by structural items

theorem follows_prettyMembers {tokens : List Token} {text : List Char}
    (depth : Nat) (members : List (String × Json)) (htext : Follows tokens text) :
    Follows (memberTokens members ++ tokens) (prettyMembers depth members ++ text) := by
  cases members with
  | nil => exact htext
  | cons member rest =>
    have hrest := follows_prettyMembers depth rest htext
    cases rest with
    | nil =>
      simpa [memberTokens, prettyMembers] using
        Follows.newline depth (spelled_prettyMember depth member htext)
    | cons second others =>
      simpa [memberTokens, prettyMembers] using
        Follows.newline depth (spelled_prettyMember depth member (.comma hrest.spelled))
termination_by structural members

theorem spelled_prettyMember {tokens : List Token} {text : List Char}
    (depth : Nat) (member : String × Json) (htext : Follows tokens text) :
    Spelled (nameTokens member ++ tokens) (prettyMember depth member ++ text) := by
  obtain ⟨name, value⟩ := member
  have hvalue := Spelled.blank (Or.inl rfl) (spelled_prettyText depth value htext)
  simpa [nameTokens, prettyMember] using spelled_name name hvalue
termination_by structural member

end

/-- Compact text spells the tokens of the value. -/
theorem spelled_compact (value : Json) : Spelled value.tokens value.compact.toList := by
  simpa [compact] using spelled_compactText value .nil

/-- Indented text spells the tokens of the value, also with a line break behind it. -/
theorem spelled_pretty (value : Json) : Spelled value.tokens (value.pretty.toList ++ ['\n']) := by
  have htext := spelled_prettyText 0 value (Follows.newline 0 .nil)
  simpa [pretty, newline] using htext

end QueryModel.Json
