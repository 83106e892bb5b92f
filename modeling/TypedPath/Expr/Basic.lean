import TypedPath.Expr.Tree

/-! Expressions: operations of four kinds over lists of parts.

The parts of an operation are not restricted by its kind. An operation whose parts do not fit its
kind is found out when it is typed or evaluated. -/

namespace TypedPath

mutual

inductive Expr where
  | literal (parts : List Part)
  | operator (parts : List Part)
  | path (parts : List Part)
  | call (parts : List Part)

inductive Part where
  | literal (value : Literal)
  | null
  | operator (op : Operator)
  | segment (name : String)
  | method (name : String)
  | expr (expr : Expr)

end

namespace Expr

def kind : Expr → ExprKind
  | literal _ => .literal
  | operator _ => .operator
  | path _ => .path
  | call _ => .call

def parts : Expr → List Part
  | literal parts | operator parts | path parts | call parts => parts

def ofKind (kind : ExprKind) (parts : List Part) : Expr :=
  match kind with
  | .literal => literal parts
  | .operator => operator parts
  | .path => path parts
  | .call => call parts

end Expr

def firstOperator? : List Part → Option Operator
  | [] => none
  | .operator op :: _ => some op
  | _ :: rest => firstOperator? rest

/-- Whether an operation is a condition by its form: a boolean literal, or an operator that is
neither arithmetic nor an increment. -/
def Expr.isCondition : Expr → Bool
  | .literal [.literal (.boolean _)] => true
  | .operator parts =>
    match firstOperator? parts with
    | some op => op.group != .arithmetic && op.group != .increment
    | none => false
  | _ => false

mutual

def Expr.text : Expr → String
  | .literal parts => "".intercalate (partTexts parts)
  | .operator parts => " ".intercalate (partTexts parts)
  | .path parts => pathText true parts
  | .call [] => "()"
  | .call (name :: arguments) =>
    name.text ++ "(" ++ ", ".intercalate (partTexts arguments) ++ ")"

def Part.text : Part → String
  | .literal value => value.text
  | .null => "null"
  | .operator op => op.symbol
  | .segment name => name
  | .method name => name
  | .expr expr => expr.text

def partTexts : List Part → List String
  | [] => []
  | part :: parts => part.text :: partTexts parts

def pathText (first : Bool) : List Part → String
  | [] => ""
  | .expr expr :: rest => "[" ++ expr.text ++ "]" ++ pathText false rest
  | step :: rest => (if first then "" else "/") ++ step.text ++ pathText false rest

end

mutual

def Tree.toPart : Tree → Part
  | .literal value => .literal value
  | .null => .null
  | .operator op => .operator op
  | .segment name => .segment name
  | .method name => .method name
  | .operation kind children => .expr (.ofKind kind (toParts (kind == .path) children))

/-- The parts of an operation. A bare literal in a path is an index, and becomes an operation. -/
def toParts (inPath : Bool) : List Tree → List Part
  | [] => []
  | .literal value :: rest =>
    (if inPath then .expr (.literal [.literal value]) else .literal value) :: toParts inPath rest
  | tree :: rest => tree.toPart :: toParts inPath rest

end

def Tree.toExpr? : Tree → Option Expr
  | .operation kind children => some (.ofKind kind (toParts (kind == .path) children))
  | _ => none

end TypedPath
