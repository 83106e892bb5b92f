import TypedPath.Eval.Access
import TypedPath.Eval.Operate
import TypedPath.Env
import TypedPath.Expr.Form

/-! The value of an expression. -/

namespace TypedPath

/-- Where paths are read from: absolute ones from the root, relative ones from the current content,
and self references from the item that a filter looks at. -/
structure Frame where
  root : Content
  current : Content
  self : Option Value

def Frame.start (content : Content) : Frame := ⟨content, content, none⟩

def Frame.forItem (frame : Frame) (item : Value) : Frame :=
  match item.content? with
  | some content => ⟨frame.root, content, some item⟩
  | none => { frame with self := some item }

def Frame.read (frame : Frame) (name : String) : Value :=
  match unmark? rootMark name with
  | some bare => frame.root.read bare
  | none => if name = selfReference then frame.self.getD .null else frame.current.read name

def Literal.value : Literal → Value
  | boolean b => .boolean b
  | string s => .string s
  | integer n => .integer n
  | decimal x => .float x

def keepItems (test : Value → Except EvalError Value) : List Value → Except EvalError (List Value)
  | [] => .ok []
  | item :: items => do
    let verdict ← test item
    let kept ← keepItems test items
    return if verdict.isTrue then item :: kept else kept

def implementation? (env : Env) (parts : List Part) :
    Except EvalError (List Value → Except EvalError Value) :=
  match methodName parts with
  | .error _ => .error (.noMethodName (Expr.call parts).text)
  | .ok name =>
    match env.methods.resolve name (methodArguments parts).length with
    | .error cause => .error (.unknownMethod cause)
    | .ok signature =>
      match signature.implementation with
      | some run => .ok run
      | none => .error (.notInvocable name)

mutual

def Expr.eval (env : Env) (frame : Frame) : Expr → Except EvalError Value
  | .literal [.literal value] => .ok value.value
  | .literal parts => .error (.type (.notSingleLiteral (Expr.literal parts).text))
  | .operator parts => evalOperator env frame parts parts
  | .path (.segment name :: steps) => evalSteps env frame (frame.read name) steps
  | .path _ => .error (.access .noField)
  | .call parts => do
    let run ← implementation? env parts
    match parts with
    | [] => run []
    | _ :: arguments => run (← evalArguments env frame arguments)
termination_by structural expr => expr

def Part.eval (env : Env) (frame : Frame) : Part → Except EvalError Value
  | .literal value => .ok value.value
  | .null => .ok .null
  | .expr expr => expr.eval env frame
  | part => .error (.type (.notAnOperand part.text))
termination_by structural part => part

/-- The first operator applied to the parts next to it; parts further off are not looked at. -/
def evalOperator (env : Env) (frame : Frame) (whole : List Part) :
    List Part → Except EvalError Value
  | [] => .error (.type (.noOperator (Expr.operator whole).text))
  | .operator op :: rest => do
    op.operate (env.listing frame.root) .null (← evalFirst env frame rest)
  | left :: .operator op :: rest => do
    let left ← left.eval env frame
    op.operate (env.listing frame.root) left (← evalFirst env frame rest)
  | _ :: rest => evalOperator env frame whole rest
termination_by structural parts => parts

def evalFirst (env : Env) (frame : Frame) : List Part → Except EvalError Value
  | [] => .ok .null
  | part :: _ => part.eval env frame
termination_by structural parts => parts

def evalArguments (env : Env) (frame : Frame) : List Part → Except EvalError (List Value)
  | [] => .ok []
  | part :: parts => do
    let value ← part.eval env frame
    return value :: (← evalArguments env frame parts)
termination_by structural parts => parts

def evalSteps (env : Env) (frame : Frame) (value : Value) : List Part → Except EvalError Value
  | [] => .ok value
  | .segment name :: steps => evalSteps env frame (value.select name) steps
  | .expr bracket :: steps => do
    if bracket.isCondition then
      let kept ← keepItems (fun item => bracket.eval env (frame.forItem item)) value.filterItems
      evalSteps env frame (.array kept) steps
    else
      let index ← bracket.eval env frame
      evalSteps env frame (← value.item index) steps
  | part :: _ => .error (.access (.notAStep part.text))
termination_by structural parts => parts

end

def Expr.evaluate (env : Env) (content : Content) (expr : Expr) : Except EvalError Value :=
  expr.eval env (.start content)

end TypedPath
