import TypedPath.Typing.Operands

/-! Whether an expression is well typed: the list of all that is wrong with it. -/

namespace TypedPath

/-- What the check of an operand gives: findings, or a type, or neither for null. -/
structure Operand where
  findings : List Finding
  typing : Option Typing

def Operand.absent : Operand := ⟨[], none⟩

def Referent.finding? (name : String) : Referent → Option Finding
  | .found _ | .unmodeled => none
  | .missing schema => some (.missingField name schema)
  | .noContext => some (if name = selfReference then .selfWithoutContext else .noSchema name)

def literalFindings : List Part → List Finding
  | [.literal _] => []
  | parts => [.malformedLiteral (Expr.literal parts).text]

mutual

def Expr.check (env : Env) (context : Option Record) : Expr → ScopeM (List Finding)
  | .literal parts => ScopeM.oneDeeper env (pure (literalFindings parts))
  | .operator parts => ScopeM.oneDeeper env do
    let form ← ScopeM.lift (OperatorForm.ofParts parts)
    match form.arityFinding? with
    | some finding => return [finding]
    | none =>
      let (left, right) ← checkOperands env parts context parts
      let findings := left.findings ++ right.findings
      if findings.isEmpty then
        return sideFindings env form.operator left.typing right.typing
      else return findings
  | .path parts =>
    ScopeM.oneDeeper env (ScopeM.leaving
      (if parts.isEmpty then pure [.emptyPath] else checkPath env true context parts))
  | .call parts => ScopeM.oneDeeper env do
    let name ← ScopeM.lift (methodName parts)
    match env.methods.resolve name (methodArguments parts).length with
    | .error cause => return [.unresolvedMethod name cause]
    | .ok signature =>
      match parts with
      | [] => return []
      | _ :: arguments =>
        checkArguments env (Expr.call parts) name context 0 signature.parameters arguments
termination_by structural expr => expr

def Part.check (env : Env) (whole : Expr) (context : Option Record) : Part → ScopeM Operand
  | .null => return .absent
  | .literal value => return ⟨[], some (.single (env.literalType value))⟩
  | .expr expr => do
    let findings ← expr.check env context
    if findings.isEmpty then return ⟨[], some (← expr.infer env context)⟩
    else return ⟨findings, none⟩
  | part => throw (.unexpectedPart part.text whole.text)
termination_by structural part => part

def checkOperands (env : Env) (whole : List Part) (context : Option Record) :
    List Part → ScopeM (Operand × Operand)
  | [] => return (.absent, .absent)
  | .operator _ :: rest => return (.absent, ← checkFirst env whole context rest)
  | left :: .operator _ :: rest => do
    let left ← left.check env (.operator whole) context
    return (left, ← checkFirst env whole context rest)
  | _ :: rest => checkOperands env whole context rest
termination_by structural parts => parts

def checkFirst (env : Env) (whole : List Part) (context : Option Record) :
    List Part → ScopeM Operand
  | [] => return .absent
  | part :: _ => part.check env (.operator whole) context
termination_by structural parts => parts

def checkArguments (env : Env) (whole : Expr) (method : String) (context : Option Record)
    (position : Nat) (parameters : List Parameter) : List Part → ScopeM (List Finding)
  | [] => return []
  | argument :: arguments =>
    match parameters with
    | [] => return []
    | parameter :: parameters => do
      let operand ← argument.check env whole context
      let mismatch := match operand.typing with
        | none => []
        | some typing =>
          if parameter.accepts typing.ty then []
          else [.argumentMismatch argument.text typing.ty position method parameter.cls]
      let rest ← checkArguments env whole method context (position + 1) parameters arguments
      return operand.findings ++ mismatch ++ rest
termination_by structural parts => parts

def checkPath (env : Env) (first : Bool) (context : Option Record) :
    List Part → ScopeM (List Finding)
  | [] => return []
  | .segment name :: rest => do
    match Referent.ofSegment name first context (← get) with
    | .found field =>
      match rest with
      | [] => return []
      | .expr bracket :: rest =>
        ScopeM.enter field.ty
        let inner := field.ty.record?.or context
        let single := if field.isList then [] else [.bracketOnSingle field.name]
        let findings ← bracket.check env inner
        match field.ty, rest with
        | .scalar cls, _ :: _ =>
          return single ++ findings ++
            if cls.isUnconstrained then [] else [.notARecord field.name]
        | _, _ => return single ++ findings ++ (← checkPath env false inner rest)
      | next :: rest =>
        match field.ty with
        | .record schema =>
          ScopeM.enter field.ty
          checkPath env false (some schema) (next :: rest)
        | .scalar cls => return if cls.isUnconstrained then [] else [.notARecord field.name]
    | other => return (other.finding? name).toList
  | part :: _ => return [.notAStep part.text]
termination_by structural parts => parts

end

end TypedPath
