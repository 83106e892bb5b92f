import TypedPath.Expr.Operator
import TypedPath.Value.Basic

/-! Why an evaluation fails. -/

namespace TypedPath

inductive TypeFault where
  | notSingleLiteral (operation : String)
  | notAnOperand (part : String)
  | noOperator (operation : String)
  | inapplicable (op : Operator) (left right : ValueKind)
  | overflow (op : Operator) (left right : String)
  | misfit (result : String)
  | noPower (base exponent : ValueKind)
  | incomparable (op : Operator) (left right : ValueKind)
  | notSearchable (kind : ValueKind)
  | patternNotText (kind : ValueKind)
  | notIndexable (kind : ValueKind)
  | reported (text : String)
  deriving DecidableEq, Repr

def TypeFault.message : TypeFault → String
  | notSingleLiteral operation => operation ++ " is not a single literal"
  | notAnOperand part => part ++ " can not be used as an operand"
  | noOperator operation => "no operator found in " ++ operation
  | inapplicable op left right =>
    "Cannot apply " ++ op.symbol ++ " to " ++ left.text ++ " and " ++ right.text
  | overflow op left right => "Overflow computing " ++ left ++ " " ++ op.symbol ++ " " ++ right
  | misfit result => result ++ " does not fit the left operand"
  | noPower base exponent => "Cannot raise " ++ base.text ++ " to " ++ exponent.text
  | incomparable op left right =>
    "Cannot compare " ++ left.text ++ " " ++ op.symbol ++ " " ++ right.text
  | notSearchable kind => "Cannot search in " ++ kind.text ++ ", a collection is required"
  | patternNotText kind => "a pattern must be a string, got " ++ kind.text
  | notIndexable kind =>
    "Cannot use integer index on " ++ kind.text ++ "; only arrays support integer indexing"
  | reported text => text

inductive AccessFault where
  | noField
  | notAStep (part : String)
  | notAnIndex (kind : ValueKind)
  deriving DecidableEq, Repr

def AccessFault.message : AccessFault → String
  | noField => "a path must start with a field"
  | notAStep part => part ++ " can not be used in a path"
  | notAnIndex kind => "Cannot index with " ++ kind.text

inductive MethodFault where
  | notFound (name : String)
  | arity (name : String) (count : Nat)
  deriving DecidableEq, Repr

def MethodFault.message : MethodFault → String
  | notFound name => "no method named '" ++ name ++ "' is registered"
  | arity name count =>
    "method '" ++ name ++ "' does not accept " ++ toString count ++ " argument(s)"

inductive EvalError where
  | type (fault : TypeFault)
  | access (fault : AccessFault)
  | divisionByZero
  | invalidPattern (pattern : String)
  | noMethodName (operation : String)
  | unknownMethod (cause : MethodFault)
  | notInvocable (name : String)
  deriving DecidableEq, Repr

def EvalError.message : EvalError → String
  | type fault => "Type error: " ++ fault.message
  | access fault => "Access error: " ++ fault.message
  | divisionByZero => "Division by zero"
  | invalidPattern pattern => "Invalid pattern: " ++ pattern
  | noMethodName operation => "Unknown method: " ++ operation
  | unknownMethod cause => "Unknown method: " ++ cause.message
  | notInvocable name => "The method " ++ name ++ " has no implementation"

end TypedPath
