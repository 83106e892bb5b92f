import TypedPath.Expr.Literal
import TypedPath.Expr.Operator

/-! Parse trees, as a parser of the query language hands them over. -/

namespace TypedPath

inductive ExprKind where
  | literal
  | operator
  | path
  | call
  deriving DecidableEq, Repr

def ExprKind.ofName? (name : String) : Option ExprKind :=
  match name.map Char.toLower with
  | "literal" | "native" => some .literal
  | "operator" | "classic" => some .operator
  | "variable" => some .path
  | "method" | "method_call" | "methodcall" => some .call
  | _ => none

inductive Tree where
  | literal (value : Literal)
  | null
  | operator (op : Operator)
  | segment (name : String)
  | method (name : String)
  | operation (kind : ExprKind) (children : List Tree)

namespace Tree

def value (literal : Literal) : Tree := .operation .literal [.literal literal]

def path (names : List String) : Tree := .operation .path (names.map .segment)

def call (name : String) (arguments : List Tree) : Tree :=
  .operation .call (.method name :: arguments)

mutual

def text : Tree → String
  | literal value => value.text
  | null => "null"
  | operator op => op.symbol
  | segment name => name
  | method name => name
  | operation .literal children => "".intercalate (texts children)
  | operation .operator children => " ".intercalate (texts children)
  | operation .path children => stepTexts true children
  | operation .call [] => "()"
  | operation .call (name :: arguments) =>
    name.text ++ "(" ++ ", ".intercalate (texts arguments) ++ ")"

def texts : List Tree → List String
  | [] => []
  | child :: children => child.text :: texts children

def stepTexts (first : Bool) : List Tree → String
  | [] => ""
  | operation kind children :: rest =>
    "[" ++ (operation kind children).text ++ "]" ++ stepTexts false rest
  | step :: rest => (if first then "" else "/") ++ step.text ++ stepTexts false rest

end

end Tree

end TypedPath
