import QueryModel.Binary64.Rounding
import QueryModel.Query.Node
import QueryModel.Truth
import QueryModel.Unicode.Lowercase

/-! # Evaluation

The truth value of a predicate when every attribute and every parameter has a value, null included.
-/

namespace QueryModel

/-- The values of attributes, by alias and name, and of parameters. What has no value is null. -/
structure Bindings where
  path : String → String → Value
  parameter : Parameter → Value

namespace Bindings

/-- Nothing has a value. -/
def empty : Bindings := ⟨fun _ _ => .null, fun _ => .null⟩

/-- The bindings with a value for an attribute. -/
def withPath (bindings : Bindings) (aliasName attributeName : String) (value : Value) : Bindings :=
  { bindings with
    path := fun otherAlias otherName =>
      if otherAlias = aliasName ∧ otherName = attributeName then value
      else bindings.path otherAlias otherName }

/-- The bindings with a value for a parameter. -/
def withParameter (bindings : Bindings) (parameter : Parameter) (value : Value) : Bindings :=
  { bindings with
    parameter := fun other => if other = parameter then value else bindings.parameter other }

end Bindings

namespace Value

/-- The order of two texts, by code point. -/
def compareText (left right : String) : Ordering :=
  if left < right then .lt else if left = right then .eq else .gt

/-- The order of two values. Whole numbers and floating point numbers are compared as floating
point numbers; values of different kinds, and what is not a number, are in no order. -/
def compare? : Value → Value → Option Ordering
  | .integer left, .integer right => some (compare left right)
  | .integer left, .float right => (Binary64.ofInt left).compare? right
  | .float left, .integer right => left.compare? (Binary64.ofInt right)
  | .float left, .float right => left.compare? right
  | .string left, .string right => some (compareText left right)
  | .boolean left, .boolean right => some (compare left.toNat right.toNat)
  | _, _ => none

/-- Every ending of a text, the whole text first. -/
def endings : List Char → List (List Char)
  | [] => [[]]
  | c :: rest => (c :: rest) :: endings rest

/-- Whether a text matches a pattern, in which a percent sign stands for any characters and an
underscore for exactly one. -/
def likeMatches : List Char → List Char → Bool
  | text, [] => text.isEmpty
  | text, '%' :: pattern => (endings text).any fun ending => likeMatches ending pattern
  | [], '_' :: _ => false
  | _ :: text, '_' :: pattern => likeMatches text pattern
  | [], _ :: _ => false
  | c :: text, d :: pattern => c == d && likeMatches text pattern
termination_by structural _ pattern => pattern

/-- Whether a value matches a pattern; only texts can be matched. -/
def like (ignoreCase : Bool) : Value → Value → Truth
  | .string text, .string pattern =>
    let fold := fun cs => if ignoreCase then Unicode.lowercase cs else cs
    .ofBool (likeMatches (fold text.toList) (fold pattern.toList))
  | _, _ => .unknown

/-- Whether an order is one that an operator asks for. -/
def allowsOrder : Operator → Ordering → Bool
  | .equals, order => order == .eq
  | .notEquals, order => order != .eq
  | .lessThan, order => order == .lt
  | .lessThanOrEqual, order => order != .gt
  | .greaterThan, order => order == .gt
  | _, order => order != .lt

/-- The truth value of an order, which is unknown where there is none. -/
def ordered (operator : Operator) (left right : Value) : Truth :=
  match left.compare? right with
  | none => .unknown
  | some order => .ofBool (allowsOrder operator order)

/-- The truth value of a comparison of two values. -/
def compared (left : Value) (operator : Operator) (right : Value) : Truth :=
  if left = .null ∨ right = .null then .unknown
  else
    match operator with
    | .like => like false left right
    | .notLike => (like false left right).not
    | .ilike => like true left right
    | .notIlike => (like true left right).not
    | .isIn => ordered .equals left right
    | .notIn => ordered .notEquals left right
    | operator => ordered operator left right

/-- Whether a value is among several: true if it equals one of them, otherwise unknown if it cannot
be compared with one of them. -/
def isAmong (value : Value) (others : List Value) : Truth :=
  others.foldl (fun truth other => truth.or (value.compared .equals other)) .fails

end Value

/-- The value of a scalar. -/
def Scalar.value (bindings : Bindings) (scalar : Scalar) : Value :=
  match scalar.source with
  | .literal value => value
  | .parameter parameter => bindings.parameter parameter
  | .path root attributeName => bindings.path root.aliasName attributeName

/-- The truth value of a comparison with an expression. -/
def Expression.compared (bindings : Bindings) (left : Value) (operator : Operator) :
    Expression → Truth
  | .scalar right => left.compared operator (right.value bindings)
  | .list right =>
    let values := right.elements.map (Scalar.value bindings)
    match operator with
    | .isIn => left.isAmong values
    | .notIn => (left.isAmong values).not
    | _ => .unknown

/-- The truth value of a predicate. -/
def Predicate.evaluate (bindings : Bindings) : Predicate → Truth
  | .comparison _ left operator right => right.compared bindings (left.value bindings) operator
  | .junction _ left .and right => (left.evaluate bindings).and (right.evaluate bindings)
  | .junction _ left .or right => (left.evaluate bindings).or (right.evaluate bindings)
  | .negation _ inner => (inner.evaluate bindings).not
  | .nullness _ operand negated =>
    .ofBool (decide (operand.value bindings = .null) != negated)
  | .between _ operand lower upper negated =>
    let value := operand.value bindings
    Truth.negateIf negated
      ((value.compared .greaterThanOrEqual (lower.value bindings)).and
        (value.compared .lessThanOrEqual (upper.value bindings)))

end QueryModel
