import TypedPath.Eval.Evaluate

/-! Where the value of a path is stored: the path with all its indexes computed. -/

namespace TypedPath

def storageIndex (env : Env) (root content : Content) (bracket : Expr) : Except Failure Int64 :=
  if bracket.isCondition then .error (.filterInStoragePath bracket.text)
  else
    match bracket.eval env ⟨root, content, none⟩ with
    | .error cause => .error (.evaluation cause)
    | .ok (.boolean _) => .error (.filterInStoragePath bracket.text)
    | .ok value =>
      match value.index? with
      | none => .error (.nonNumericIndex bracket.text (value.text (env.listing root)))
      | some index => if index < 0 then .error (.negativeIndex index) else .ok index

def storedContent? (stored : Option Value) : Option Content :=
  stored.bind Value.content?

def storedItem? (stored : Option Value) (index : Int64) : Option Value :=
  match stored with
  | some (.array items) => items[index.toInt.toNat]?
  | _ => none

def storedName (name : String) : String := (unmark? rootMark name).getD name

/-- The storage path of the parts still to go, of which `whole` are all. The content is known to
enclose the value only while `known` holds; where a value is missing, indexes are computed against
the content that is left. -/
def storageSteps (env : Env) (whole : List Part) (root content : Content) (known : Bool) :
    List Part → Except Failure String
  | [] => .error (.notAPath (Expr.path whole).text)
  | .segment name :: rest =>
    let step := storedName name
    let stored := if known then content.get? step else none
    match rest with
    | [] => .ok step
    | .expr bracket :: rest => do
      let index ← storageIndex env root content bracket
      let step := step ++ "[" ++ toString index.toInt ++ "]"
      match rest with
      | [] => return step
      | next :: rest =>
        match storedContent? (storedItem? stored index) with
        | some item =>
          return step ++ "/" ++ (← storageSteps env whole root item true (next :: rest))
        | none =>
          return step ++ "/" ++ (← storageSteps env whole root content false (next :: rest))
    | .segment next :: rest =>
      match storedContent? stored with
      | some child => do
        return step ++ "/" ++ (← storageSteps env whole root child true (.segment next :: rest))
      | none => do
        return step ++ "/" ++
          (← storageSteps env whole root content false (.segment next :: rest))
    | part :: _ => .error (.unexpectedPart part.text (Expr.path whole).text)
  | part :: _ => .error (.unexpectedPart part.text (Expr.path whole).text)

def Expr.storagePath (env : Env) (content : Content) : Expr → Except Failure String
  | .path parts => storageSteps env parts content content true parts
  | other => .error (.notAPath other.text)

end TypedPath
