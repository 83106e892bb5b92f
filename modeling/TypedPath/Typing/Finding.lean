import TypedPath.Failure
import TypedPath.Schema.Record

/-! What is wrong with an expression that can be typed: findings, and the diagnostics that tell
them. -/

namespace TypedPath

inductive Side where
  | left
  | right
  deriving DecidableEq, Repr

def Side.text : Side → String
  | left => "left"
  | right => "right"

inductive OperandRule where
  | numbersAndStrings
  | numbers
  | comparable
  | booleans
  | strings
  deriving DecidableEq, Repr

def OperandRule.text : OperandRule → String
  | numbersAndStrings => "numbers and strings"
  | numbers => "numbers"
  | comparable => "comparable types"
  | booleans => "boolean types"
  | strings => "string types"

inductive Finding where
  | malformedLiteral (operation : String)
  | missingOperand (side : Side) (op : Operator)
  | extraOperand (side : Side) (op : Operator)
  | nullCollection (op : Operator)
  | nullOperand (side : Side) (op : Operator)
  | recordOperand (side : Side) (ty : Ty) (op : Operator)
  | notBoolean (op : Operator) (ty : Ty)
  | notNumber (op : Operator) (cls : ValueClass)
  | unsupported (op : Operator) (rule : OperandRule) (side : Side) (ty : Ty)
  | noCast (op : Operator) (left right : ValueClass)
  | notACollection (op : Operator) (ty : Ty)
  | unresolvedMethod (name : String) (cause : MethodFault)
  | argumentMismatch (argument : String) (ty : Ty) (position : Nat) (method : String)
      (expected : ValueClass)
  | emptyPath
  | notAStep (part : String)
  | missingField (name schema : String)
  | selfWithoutContext
  | noSchema (name : String)
  | bracketOnSingle (field : String)
  | notARecord (field : String)

def Finding.message : Finding → String
  | malformedLiteral operation =>
    "The literal operation " ++ operation ++ " must hold exactly one literal value"
  | missingOperand side op =>
    "There is no " ++ side.text ++ " operand for the operator " ++ op.symbol
  | extraOperand side op =>
    "The operator " ++ op.symbol ++ " does not support a " ++ side.text ++ " operand"
  | nullCollection op => "The operator " ++ op.symbol ++ " requires a right operand"
  | nullOperand side op =>
    "The operator " ++ op.symbol ++ " does not accept a null " ++ side.text ++ " operand"
  | recordOperand side ty op =>
    "The " ++ side.text ++ " operand " ++ ty.text ++ " is not compatible with the operator " ++
      op.symbol
  | notBoolean op ty =>
    "The operator " ++ op.symbol ++ " expects a boolean right operand, not " ++ ty.text
  | notNumber op cls =>
    "The operator " ++ op.symbol ++ " expects a number left operand, not " ++ cls.text
  | unsupported op rule side ty =>
    "The operator " ++ op.symbol ++ " only supports " ++ rule.text ++ ", the " ++ side.text ++
      " operand is however of type " ++ ty.text
  | noCast op left right =>
    "The right operand of type " ++ right.text ++
      " can not be cast to the type of the left operand " ++ left.text ++ " for the operator " ++
      op.symbol
  | notACollection op ty =>
    "The operator " ++ op.symbol ++
      " only supports a collection as the right operand, it is however of type " ++ ty.text
  | unresolvedMethod name cause =>
    "The method " ++ name ++ " could not be resolved: " ++ cause.message
  | argumentMismatch argument ty position method expected =>
    "The argument " ++ argument ++ " of type " ++ ty.text ++
      " is not compatible with the parameter " ++ toString position ++ " of method " ++ method ++
      ", expecting " ++ expected.text
  | emptyPath => "A path needs at least one segment"
  | notAStep part => "The part " ++ part ++ " can not be used in a path"
  | missingField name schema => "The child " ++ name ++ " does not exist in " ++ schema
  | selfWithoutContext =>
    "Can not use the " ++ selfReference ++ " reference without a valid context"
  | noSchema name => "There is no schema to resolve " ++ name ++ " against"
  | bracketOnSingle field =>
    "The element " ++ field ++ " is not a collection, the filter can not be applied to it"
  | notARecord field =>
    "The child " ++ field ++ " is not complex, further path access is impossible"

inductive Severity where
  | error
  deriving DecidableEq, Repr

def Severity.text : Severity → String
  | error => "error"

def Severity.code : Severity → String
  | error => "ERROR"

structure Diagnostic where
  severity : Severity
  message : String
  deriving DecidableEq, Repr

namespace Diagnostic

def error (message : String) : Diagnostic := ⟨.error, message⟩

def isError (diagnostic : Diagnostic) : Bool := diagnostic.severity == .error

def text (diagnostic : Diagnostic) : String :=
  diagnostic.severity.text ++ ": " ++ diagnostic.message

end Diagnostic

def Finding.diagnostic (finding : Finding) : Diagnostic := Diagnostic.error finding.message

end TypedPath
