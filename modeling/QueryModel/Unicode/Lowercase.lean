import QueryModel.Unicode.CaseTable
import QueryModel.Unicode.Range

/-! # Lowercase text

The full lowercase mapping of a text. One letter, the capital I with a dot, becomes two characters,
and a capital sigma becomes a final sigma where it ends a word.
-/

namespace QueryModel.Unicode

/-- Letters with upper and lower case. -/
def isCased (c : Char) : Bool := inRanges casedRanges c

/-- Characters that a word is read across when its end is looked for. -/
def isCaseIgnorable (c : Char) : Bool := inRanges caseIgnorableRanges c

/-- The lowercase form of one character on its own. -/
def lowerChar (c : Char) : List Char :=
  if c = 'İ' then ['i', '\u0307']
  else
    let run? := lowercaseRuns.find? fun run =>
      run.first ≤ c.toNat && c.toNat ≤ run.last && (c.toNat - run.first) % run.stride == 0
    match run? with
    | none => [c]
    | some run => [Char.ofNat (c.toNat + run.offset).toNat]

/-- Whether the first character that is not ignorable is a cased one. -/
def startsCased (text : List Char) : Bool :=
  match text.dropWhile isCaseIgnorable with
  | [] => false
  | c :: _ => isCased c

/-- A sigma is final when a cased letter stands before it and none after it. -/
def lowerSigma (before after : List Char) : Char :=
  if startsCased before && !startsCased after then 'ς' else 'σ'

/-- The lowercase form of `text`, where `before` is what precedes it, read backwards. -/
def lowerAfter (before : List Char) : List Char → List Char
  | [] => []
  | c :: rest =>
    (if c = 'Σ' then [lowerSigma before rest] else lowerChar c) ++ lowerAfter (c :: before) rest

/-- The lowercase form of a text. -/
def lowercase (text : List Char) : List Char := lowerAfter [] text

end QueryModel.Unicode
