import TypedPath.Typing.Scope
import TypedPath.Expr.Form

/-! The type of an expression, and whether it gives many values. -/

namespace TypedPath

/-- A type, and for an expression that gives many values how these are kept. -/
structure Typing where
  ty : Ty
  strategy : Option Strategy

namespace Typing

def single (ty : Ty) : Typing := ⟨ty, none⟩

def givesMany (typing : Typing) : Bool := typing.strategy.isSome

end Typing

inductive Referent where
  | found (field : Field)
  | unmodeled
  | missing (schema : String)
  | noContext

def Referent.ofRecord (schema : Record) (name : String) : Referent :=
  if schema.unmodeled then unmodeled
  else
    match schema.field? name with
    | some field => found field
    | none => missing schema.name

/-- What a segment refers to: a field of the root record behind a root mark on the first segment,
the type entered last for a self reference, and otherwise a field of the context, where an attribute
mark may be left out. -/
def Referent.ofSegment (name : String) (first : Bool) (context : Option Record) (scope : Scope) :
    Referent :=
  match unmark? rootMark name with
  | some bare =>
    match (if first then scope.root else context) with
    | some base => ofRecord base bare
    | none => noContext
  | none =>
    if name = selfReference then
      match scope.current with
      | some ty => found (Field.self ty)
      | none => noContext
    else
      match context with
      | none => noContext
      | some schema =>
        match ofRecord schema name with
        | missing record =>
          match (unmark? attributeMark name).map (ofRecord schema) with
          | some (found field) => found field
          | _ => missing record
        | other => other

/-- The strategy after a field that ends a path or is passed without a bracket. A declared strategy
wins, and a list is kept as one unless a strategy is known already. -/
def Field.strategyAfter (field : Field) (strategy : Option Strategy) : Option Strategy :=
  match field.strategy with
  | some declared => some declared
  | none => if field.isList && strategy.isNone then some .list else strategy

/-- Whether a bracket selects items, seen from its type: by its form for an operator, and for all
other operations by giving a boolean. -/
def Expr.selects (bracket : Expr) (typing : Typing) : Bool :=
  match bracket with
  | .operator _ => bracket.isCondition
  | _ => typing.ty.isBoolean

def strategyAfterBracket (bracket : Expr) (typing : Typing) (strategy : Option Strategy) :
    Option Strategy :=
  if bracket.selects typing && strategy.isNone then some .list else strategy

def Returns.typing : Returns → Typing
  | value (.list component) => ⟨.ofClass component, some .list⟩
  | value (.array component) => ⟨.ofClass component, some .array⟩
  | value cls => .single (.ofClass cls)
  | record schema => .single (.record schema)

def inferLiteral (env : Env) : List Part → Except Failure Typing
  | [.literal value] => .ok (.single (env.literalType value))
  | parts => .error (.malformedLiteral (Expr.literal parts).text)

def resolveCall (env : Env) (parts : List Part) : Except Failure Signature := do
  let name ← methodName parts
  match env.methods.resolve name (methodArguments parts).length with
  | .ok signature => .ok signature
  | .error cause => .error (.unresolvedMethod name cause)

def inferCall (env : Env) (parts : List Part) : Except Failure Typing :=
  (resolveCall env parts).map fun signature => signature.returns.typing

mutual

def Expr.infer (env : Env) (context : Option Record) : Expr → ScopeM Typing
  | .literal parts => ScopeM.oneDeeper env (ScopeM.lift (inferLiteral env parts))
  | .operator parts => ScopeM.oneDeeper env do
    let form ← ScopeM.lift (OperatorForm.ofParts parts)
    if form.operator.group = .arithmetic then
      match parts with
      | .expr left :: _ => return .single (← left.infer env context).ty
      | .literal value :: _ => return .single (env.literalType value)
      | part :: _ => throw (.unexpectedPart part.text (Expr.operator parts).text)
      | [] => throw (.noOperator (Expr.operator parts).text)
    else return .single (.scalar .boolean)
  | .path parts =>
    ScopeM.oneDeeper env (ScopeM.leaving (inferPath env parts true context none parts))
  | .call parts => ScopeM.oneDeeper env (ScopeM.lift (inferCall env parts))
termination_by structural expr => expr

def inferPath (env : Env) (whole : List Part) (first : Bool) (context : Option Record)
    (strategy : Option Strategy) : List Part → ScopeM Typing
  | [] => throw (.notAPath (Expr.path whole).text)
  | .segment name :: rest => do
    match Referent.ofSegment name first context (← get) with
    | .unmodeled => return ⟨.scalar .object, strategy⟩
    | .missing schema => throw (.unknownField name schema)
    | .noContext => throw (.noContext name)
    | .found field =>
      match rest with
      | [] => return ⟨field.ty, field.strategyAfter strategy⟩
      | .expr bracket :: [] =>
        ScopeM.enter field.ty
        let typing ← bracket.infer env (field.ty.record?.or context)
        return ⟨field.ty, strategyAfterBracket bracket typing strategy⟩
      | .expr bracket :: next :: rest =>
        ScopeM.enter field.ty
        let typing ← bracket.infer env (field.ty.record?.or context)
        let strategy := strategyAfterBracket bracket typing strategy
        match field.ty with
        | .record schema => inferPath env whole false (some schema) strategy (next :: rest)
        | .scalar cls =>
          if cls.isUnconstrained then return ⟨.scalar .object, strategy⟩
          else throw (.notARecord name)
      | next :: rest =>
        let strategy := if field.isList then field.strategyAfter strategy else strategy
        match field.ty with
        | .record schema =>
          ScopeM.enter field.ty
          inferPath env whole false (some schema) strategy (next :: rest)
        | .scalar cls =>
          if cls.isUnconstrained then return ⟨.scalar .object, strategy⟩
          else throw (.notARecord name)
  | part :: _ => throw (.unexpectedPart part.text (Expr.path whole).text)
termination_by structural parts => parts

end

end TypedPath
