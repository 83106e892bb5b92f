import TypedPath.Typing.Finding
import TypedPath.Typing.Infer

/-! The rules for the operands of operators, and for the arguments of methods. -/

namespace TypedPath

def OperatorForm.arityFinding? (s : OperatorForm) : Option Finding :=
  let op := s.operator
  if op.takesLeft && s.left.isNone then some (.missingOperand .left op)
  else if op.takesRight && s.right.isNone then some (.missingOperand .right op)
  else if !op.takesLeft && s.left.isSome then some (.extraOperand .left op)
  else if !op.takesRight && s.right.isSome then some (.extraOperand .right op)
  else none

namespace Operator

/-- Which operands may not be null: none for boolean operators and equality, the collection for
membership, and every operand for all others. -/
def nullFinding? (op : Operator) (left right : Option Typing) : Option Finding :=
  match op.group with
  | .boolean | .equality => none
  | .membership => if right.isNone then some (.nullCollection op) else none
  | _ =>
    if op.takesLeft && left.isNone then some (.nullOperand .left op)
    else if op.takesRight && right.isNone then some (.nullOperand .right op)
    else none

def recordFinding? (op : Operator) (left right : Option Typing) : Option Finding :=
  if op.takesRecords then none
  else
    match left.filter (!·.ty.isScalar), right.filter (!·.ty.isScalar) with
    | some typing, _ => some (.recordOperand .left typing.ty op)
    | none, some typing => some (.recordOperand .right typing.ty op)
    | none, none => none

end Operator

namespace Env

def readsAsBoolean (env : Env) : Ty → Bool
  | .record _ => true
  | .scalar cls => cls.isBoolean || env.converts cls .boolean

def readsAsText (env : Env) (cls : ValueClass) : Bool :=
  cls.isString || env.converts cls .string

def canAdd (env : Env) (cls : ValueClass) : Bool :=
  cls.isNumber || cls.isString || env.converts cls .string || env.converts cls .double

end Env

def unsupportedOperands (op : Operator) (rule : OperandRule) (test : Ty → Bool)
    (left right : Ty) : List Finding :=
  (if test left then [] else [.unsupported op rule .left left]) ++
    (if test right then [] else [.unsupported op rule .right right])

def castFindings (env : Env) (op : Operator) (left right : ValueClass) : List Finding :=
  if env.converts right left then [] else [.noCast op left right]

def pairFindings (env : Env) (op : Operator) (left right : Typing) : List Finding :=
  let leftClass := left.ty.valueClass
  let rightClass := right.ty.valueClass
  let cast := castFindings env op leftClass rightClass
  match op with
  | .add =>
    unsupportedOperands op .numbersAndStrings (fun ty => env.canAdd ty.valueClass)
      left.ty right.ty ++ cast
  | .subtract | .multiply | .divide | .modulo | .power =>
    unsupportedOperands op .numbers (·.valueClass.isNumber) left.ty right.ty ++ cast
  | .less | .lessOrEqual | .greater | .greaterOrEqual =>
    unsupportedOperands op .comparable (·.valueClass.isComparable) left.ty right.ty ++ cast
  | .equals | .notEquals => cast
  | .like | .unlike =>
    unsupportedOperands op .strings (fun ty => env.readsAsText ty.valueClass) left.ty right.ty
  | _ => []

def operandFindings (env : Env) (op : Operator) (left right : Option Typing) : List Finding :=
  match op with
  | .not =>
    match right with
    | some right => if env.readsAsBoolean right.ty then [] else [.notBoolean op right.ty]
    | none => []
  | .increase | .decrease =>
    match left with
    | some left => if left.ty.valueClass.isNumber then [] else [.notNumber op left.ty.valueClass]
    | none => []
  | .and | .or | .bitAnd | .bitOr | .xor | .notXor =>
    booleanOperand .left left ++ booleanOperand .right right
  | .isIn | .notIn =>
    match right with
    | some right =>
      if right.givesMany || right.ty.class?.any ValueClass.isIterable then []
      else [.notACollection op right.ty]
    | none => []
  | _ =>
    match left, right with
    | some left, some right => pairFindings env op left right
    | _, _ => []
where
  booleanOperand (side : Side) : Option Typing → List Finding
    | some typing =>
      if env.readsAsBoolean typing.ty then [] else [.unsupported op .booleans side typing.ty]
    | none => []

/-- All that is wrong with operands that are well typed by themselves. Comparison with null is
always right, and nothing can be said where an operand is unconstrained. -/
def sideFindings (env : Env) (op : Operator) (left right : Option Typing) : List Finding :=
  if op.group = .equality && (left.isNone || right.isNone) then []
  else
    match op.nullFinding? left right with
    | some finding => [finding]
    | none =>
      match op.recordFinding? left right with
      | some finding => [finding]
      | none =>
        if left.any (·.ty.isUnconstrained) || right.any (·.ty.isUnconstrained) then []
        else operandFindings env op left right

def Parameter.accepts (parameter : Parameter) : Ty → Bool
  | .record _ => parameter.cls.accepts .content
  | .scalar cls =>
    parameter.coerced && parameter.cls.isNumber && cls.isNumber ||
    parameter.coerced && parameter.cls.isBoolean && cls.isBoolean ||
    parameter.cls.accepts cls

end TypedPath
