import Hybrid.Expr.Basic
import Hybrid.Layout.Document

/-! # Printing expressions

An expression is printed with infix operators and as few parentheses as its structure needs, field
references as `F(name)` and calls as `NAME(argument, …)`. A combination may be broken before its
operator and a call inside its parentheses; each is a group of the layout. Every token has a style,
and parentheses carry the number of parentheses around them, so that the two of a pair look alike.
-/

namespace Hybrid

/-- What a token is. The number of parentheses around a parenthesis is kept modulo 256. -/
inductive TokenStyle where
  | punctuation
  | parenthesis (depth : UInt8)
  | function
  | operator
  | identifier
  | literal
  deriving DecidableEq

/-- The colours of a terminal that are in use. -/
inductive Colour where
  | blue
  | green
  | white
  | yellow
  | red
  | magenta
  | cyan
  deriving DecidableEq

/-- How a token looks: a colour, if it has one, and whether it is bold or dimmed. -/
structure Paint where
  colour : Option Colour
  bold : Bool
  dimmed : Bool
  deriving DecidableEq

/-- Parentheses go through six colours as they nest. -/
def Colour.ofDepth (depth : UInt8) : Colour :=
  match depth.toNat % 6 with
  | 0 => .blue
  | 1 => .green
  | 2 => .white
  | 3 => .yellow
  | 4 => .red
  | _ => .magenta

def TokenStyle.paint : TokenStyle → Paint
  | .punctuation => ⟨none, false, true⟩
  | .parenthesis depth => ⟨some (.ofDepth depth), false, true⟩
  | .function => ⟨some .cyan, true, false⟩
  | .operator => ⟨some .yellow, true, false⟩
  | .identifier => ⟨some .green, true, false⟩
  | .literal => ⟨some .magenta, false, false⟩

namespace Expr

open Layout (Doc)

/-- The binding strength of the outermost node; atoms bind tightest, then negation. -/
def precedence : Expr → Nat
  | .combined operator _ _ => operator.precedence
  | .negated _ => 4
  | .field _ | .literal _ | .call _ _ => 255

/-- Whether an operand of `parent` stands in parentheses: if it binds looser, or as tight on the
right, unless it has the same associative operator. -/
def needsParentheses (operand : Expr) (parent : Operator) (onRight : Bool) : Bool :=
  if operand.precedence ≠ parent.precedence then operand.precedence < parent.precedence
  else
    match operand with
    | .combined operator _ _ => onRight && !(parent.isAssociative && operator == parent)
    | _ => false

/-- Whether the operand of a negation stands in parentheses. -/
def needsParenthesesNegated (operand : Expr) : Bool :=
  operand.precedence < 4

/-- A styled token. -/
def token (style : TokenStyle) (content : String) : Doc TokenStyle :=
  .text (some style) content

def openParenthesis (depth : UInt8) : Doc TokenStyle :=
  token (.parenthesis depth) "("

def closeParenthesis (depth : UInt8) : Doc TokenStyle :=
  token (.parenthesis depth) ")"

/-- An operand, in parentheses if need be; `doc` is its document at a given depth. -/
def operandDoc (wrapped : Bool) (depth : UInt8) (doc : UInt8 → Doc TokenStyle) : Doc TokenStyle :=
  if wrapped then openParenthesis depth ++ doc (depth + 1) ++ closeParenthesis depth
  else doc depth

/-- A combination of two operands, which may be broken before the operator. -/
def combinedDoc (operator : Operator) (lhs rhs : Doc TokenStyle) : Doc TokenStyle :=
  .group (.nest 2 (lhs ++ .line ++ token .operator operator.symbol ++ .text none " " ++ rhs))

/-- A call whose arguments, if there are any, have the document `arguments?`. -/
def callDoc (name : String) (depth : UInt8) (arguments? : Option (Doc TokenStyle)) :
    Doc TokenStyle :=
  let inside :=
    match arguments? with
    | some arguments => Doc.softLine ++ arguments
    | none => .softLine
  .group (token .function name ++ openParenthesis depth ++ .nest 2 inside ++ .softLine ++
    closeParenthesis depth)

mutual

/-- The document of an expression inside `depth` parentheses. -/
def doc (expr : Expr) (depth : UInt8) : Doc TokenStyle :=
  match expr with
  | .field name =>
    token .function "F" ++ openParenthesis depth ++ token .identifier name ++
      closeParenthesis depth
  | .literal value => token .literal value.display
  | .combined operator lhs rhs =>
    combinedDoc operator (operandDoc (needsParentheses lhs operator false) depth (doc lhs))
      (operandDoc (needsParentheses rhs operator true) depth (doc rhs))
  | .negated operand =>
    token .operator "-" ++ operandDoc (needsParenthesesNegated operand) depth (doc operand)
  | .call name arguments => callDoc name depth (argumentsDoc? arguments (depth + 1))

/-- The document of arguments with commas between them, unless there are none. -/
def argumentsDoc? (arguments : List Expr) (depth : UInt8) : Option (Doc TokenStyle) :=
  match arguments with
  | [] => none
  | argument :: rest =>
    match argumentsDoc? rest depth with
    | none => some (doc argument depth)
    | some others => some (doc argument depth ++ (token .punctuation "," ++ .line) ++ others)

end

/-- The width of the text of an expression where none is given. -/
def defaultWidth : Nat := 80

/-- The text of an expression laid out to a width. -/
def render (expr : Expr) (width : Nat) : String :=
  (expr.doc 0).render width

/-- The styled text of an expression laid out to a width. -/
def segments (expr : Expr) (width : Nat) : List (Layout.Segment TokenStyle) :=
  (expr.doc 0).segments width

/-- The text of an expression. -/
def display (expr : Expr) : String :=
  expr.render defaultWidth

end Expr

end Hybrid
