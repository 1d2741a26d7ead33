import QueryModel.Binary64.Layout
import QueryModel.Query.Node
import QueryModel.Text.Quoted

/-! # HQL text

A query tree as text. Parentheses stand only where the text would group differently without them:
around an operand that binds more loosely than what it is an operand of.
-/

namespace QueryModel

namespace Hql

/-- Words that mean something of their own in HQL. -/
def reservedWords : List String :=
  ["and", "between", "false", "from", "ilike", "in", "is", "like", "not", "null", "or", "select",
    "true", "where"]

/-- Whether a character can begin a plain name: an ASCII letter or the underscore. -/
def beginsName (c : Char) : Bool := c.isAlpha || c == '_'

/-- Whether a character can stand in a plain name. -/
def continuesName (c : Char) : Bool := c.isAlphanum || c == '_'

/-- Whether a text reads as a word that means something of its own, in either case. -/
def isReserved (text : List Char) : Bool :=
  reservedWords.any fun word => word.toList == text.map Char.toLower

/-- Whether a text is a name as it stands. -/
def isPlainName (text : List Char) : Bool :=
  match text with
  | [] => false
  | first :: rest => beginsName first && rest.all continuesName && !isReserved text

/-- A name, between backticks unless it is a plain one. -/
def identifier (name : String) : String :=
  if isPlainName name.toList then name else Text.quoted '\x60' name

/-- A string literal, between single quotes. -/
def stringLiteral (text : String) : String := Text.quoted '\'' text

/-- Floating point text in HQL: plain from a ten-thousandth up to sixteen digits before the point,
with a point in every whole number. -/
def layout : Binary64.Layout := ⟨some (-4), some 15, true, false, .up⟩

/-- The text of a literal. -/
def literal : Value → String
  | .null => "null"
  | .boolean true => "true"
  | .boolean false => "false"
  | .integer n => String.ofList (Text.numeral n)
  | .float x => String.ofList (x.text layout)
  | .string text => stringLiteral text

/-- The text of a parameter. -/
def parameter : Parameter → String
  | .named name => ":" ++ identifier name
  | .positional position => "?" ++ String.ofList (Text.digits position)

/-- The text of a connective, with the blanks around it. -/
def connective : Connective → String
  | .and => " and "
  | .or => " or "

end Hql

/-- The text of a scalar. -/
def Scalar.hql (scalar : Scalar) : String :=
  match scalar.source with
  | .literal value => Hql.literal value
  | .parameter parameter => Hql.parameter parameter
  | .path root attributeName =>
    Hql.identifier root.aliasName ++ "." ++ Hql.identifier attributeName

/-- The texts of several scalars, with commas between them. -/
def Hql.commaSeparated : List Scalar → String
  | [] => ""
  | [last] => last.hql
  | scalar :: rest => scalar.hql ++ ", " ++ Hql.commaSeparated rest

/-- The text of an expression. -/
def Expression.hql : Expression → String
  | .scalar node => node.hql
  | .list values => "(" ++ Hql.commaSeparated values.elements ++ ")"

namespace Predicate

/-- How tightly a predicate holds its operands together, the loosest being one. -/
def bindingStrength : Predicate → Nat
  | .junction _ _ .or _ => 1
  | .junction _ _ .and _ => 2
  | .negation _ _ => 3
  | .comparison _ _ _ _ => 4
  | .nullness _ _ _ => 4
  | .between _ _ _ _ _ => 4

/-- A text in parentheses, if it needs them. -/
def parenthesised (needed : Bool) (text : String) : String :=
  if needed then "(" ++ text ++ ")" else text

/-- The text of a predicate. -/
def hql : Predicate → String
  | .comparison _ left operator right => left.hql ++ " " ++ operator.hql ++ " " ++ right.hql
  | .junction id left connective right =>
    let strength := (junction id left connective right).bindingStrength
    parenthesised (left.bindingStrength < strength) left.hql ++ Hql.connective connective ++
      parenthesised (right.bindingStrength < strength) right.hql
  | .negation id inner =>
    "not " ++ parenthesised (inner.bindingStrength < (negation id inner).bindingStrength) inner.hql
  | .nullness _ operand negated =>
    operand.hql ++ (if negated then " is not null" else " is null")
  | .between _ operand lower upper negated =>
    operand.hql ++ (if negated then " not between " else " between ") ++ lower.hql ++ " and " ++
      upper.hql

end Predicate

/-- The text of a statement. -/
def Statement.hql (statement : Statement) : String :=
  let aliasName := Hql.identifier statement.root.aliasName
  let selection :=
    "select " ++ aliasName ++ " from " ++ Hql.identifier statement.root.entity ++ " " ++ aliasName
  match statement.predicate with
  | none => selection
  | some predicate => selection ++ " where " ++ predicate.hql

end QueryModel
