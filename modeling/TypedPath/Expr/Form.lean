import TypedPath.Expr.Basic
import TypedPath.Failure

/-! The form of operators and calls: an operator between operands, a name before arguments. -/

namespace TypedPath

structure OperatorForm where
  operator : Operator
  left : Option Part
  right : Option Part

def splitAtOperator : List Part → Option (List Part × Operator × List Part)
  | [] => none
  | .operator op :: rest => some ([], op, rest)
  | part :: rest => (splitAtOperator rest).map fun (left, op, right) => (part :: left, op, right)

/-- The first operator with the operands next to it. More than one part on a side is a failure. -/
def OperatorForm.ofParts (parts : List Part) : Except Failure OperatorForm :=
  match splitAtOperator parts with
  | none => .error (.noOperator (Expr.operator parts).text)
  | some (first :: _ :: _, _, _) => .error (.unexpectedPart first.text (Expr.operator parts).text)
  | some (_, _, _ :: second :: _) => .error (.unexpectedPart second.text (Expr.operator parts).text)
  | some (left, op, right) => .ok ⟨op, left.head?, right.head?⟩

def methodName : List Part → Except Failure String
  | .method name :: _ => .ok name
  | [] => .error (.unexpectedPart "" (Expr.call []).text)
  | part :: rest => .error (.unexpectedPart part.text (Expr.call (part :: rest)).text)

def methodArguments (parts : List Part) : List Part := parts.tail

end TypedPath
