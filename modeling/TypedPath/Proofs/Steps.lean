import TypedPath.Proofs.ScopeRun
import TypedPath.Proofs.Shape

/-! What typing and checking do in one step: at an operator with its operands, at one argument of a
call, and at one segment of a path by what the segment refers to, the bracket behind it and the type
of its field. -/

namespace TypedPath

open ScopeM

theorem Expr.literal_of_typed {env : Env} {context : Option Record} {parts : List Part}
    {scope after : Scope} {typing : Typing}
    (typed : (Expr.literal parts).infer env context scope = .ok typing after) :
    ∃ value, parts = [.literal value] ∧ typing = .single (env.literalType value) := by
  rw [Expr.infer] at typed
  obtain ⟨_, inner, lifted⟩ := oneDeeper_eq_ok typed
  have single := (lift_eq_ok.mp lifted).1
  clear typed lifted
  unfold inferLiteral at single
  split at single
  · rename_i value
    cases single
    exact ⟨value, rfl, rfl⟩
  · cases single

theorem Expr.steps_of_typed {env : Env} {context : Option Record} {parts : List Part}
    {scope after : Scope} {typing : Typing}
    (typed : (Expr.path parts).infer env context scope = .ok typing after) :
    MayOpen env scope ∧ ∃ inner, inferPath env parts true context none parts
      { scope with nesting := scope.nesting + 1 } = .ok typing inner := by
  rw [Expr.infer] at typed
  obtain ⟨allowed, outer, left⟩ := oneDeeper_eq_ok typed
  exact ⟨allowed, leaving_eq_ok left⟩

def inferLeft (env : Env) (context : Option Record) (parts : List Part) : ScopeM Typing :=
  match parts with
  | .expr left :: _ => return .single (← left.infer env context).ty
  | .literal value :: _ => return .single (env.literalType value)
  | part :: _ => throw (.unexpectedPart part.text (Expr.operator parts).text)
  | [] => throw (.noOperator (Expr.operator parts).text)

theorem Expr.infer_operator (env : Env) (context : Option Record) (parts : List Part) :
    (Expr.operator parts).infer env context = oneDeeper env (do
      let form ← lift (OperatorForm.ofParts parts)
      if form.operator.group = .arithmetic then inferLeft env context parts
      else return .single (.scalar .boolean)) := by
  rw [Expr.infer.eq_def]
  rfl

def checkSide (env : Env) (whole : List Part) (context : Option Record) :
    Option Part → ScopeM Operand
  | none => return .absent
  | some part => part.check env (.operator whole) context

theorem checkFirst_eq (env : Env) (whole : List Part) (context : Option Record)
    (right : Option Part) :
    checkFirst env whole context right.toList = checkSide env whole context right := by
  cases right <;> simp [checkFirst, checkSide]

theorem checkOperands_eq (env : Env) (whole : List Part) (context : Option Record)
    (parts : List Part) (form : OperatorForm) (formed : OperatorForm.ofParts parts = .ok form) :
    checkOperands env whole context parts = (do
      let left ← checkSide env whole context form.left
      return (left, ← checkSide env whole context form.right)) := by
  rw [form.parts_eq parts formed]
  cases side : form.left with
  | none => simp [checkOperands, checkFirst_eq, checkSide]
  | some part =>
      have operand := form.left_ne_operator parts part formed side
      simp only [Option.toList_some, List.cons_append, List.nil_append]
      rw [checkOperands, checkFirst_eq, checkSide]
      exact operand

def argumentFindings (method : String) (position : Nat) (parameter : Parameter)
    (argument : Part) : Option Typing → List Finding
  | none => []
  | some typing =>
    if parameter.accepts typing.ty then []
    else [.argumentMismatch argument.text typing.ty position method parameter.cls]

theorem checkArguments_cons {env : Env} {whole : Expr} {method : String}
    {context : Option Record} {position : Nat} {parameter : Parameter}
    {parameters : List Parameter} {argument : Part} {arguments : List Part} :
    checkArguments env whole method context position (parameter :: parameters)
        (argument :: arguments) = (do
      let operand ← argument.check env whole context
      let rest ← checkArguments env whole method context (position + 1) parameters arguments
      return operand.findings ++
        argumentFindings method position parameter argument operand.typing ++ rest) := by
  rw [checkArguments]
  rfl

variable {env : Env} {whole : List Part} {first : Bool} {context : Option Record}
  {strategy : Option Strategy} {name : String} {bracket : Expr} {next : Part} {rest : List Part}
  {scope : Scope} {field : Field} {schema : Record} {cls : ValueClass}

/-- The typing of a path whose first segment refers to a field, by the parts behind it. -/
def inferField (env : Env) (whole : List Part) (context : Option Record)
    (strategy : Option Strategy) (name : String) (field : Field) : List Part → ScopeM Typing
  | [] => return ⟨field.ty, field.strategyAfter strategy⟩
  | .expr bracket :: [] => do
    enter field.ty
    let typing ← bracket.infer env (field.ty.record?.or context)
    return ⟨field.ty, strategyAfterBracket bracket typing strategy⟩
  | .expr bracket :: next :: rest => do
    enter field.ty
    let typing ← bracket.infer env (field.ty.record?.or context)
    let strategy := strategyAfterBracket bracket typing strategy
    match field.ty with
    | .record schema => inferPath env whole false (some schema) strategy (next :: rest)
    | .scalar cls =>
      if cls.isUnconstrained then return ⟨.scalar .object, strategy⟩
      else throw (.notARecord name)
  | next :: rest => do
    let strategy := if field.isList then field.strategyAfter strategy else strategy
    match field.ty with
    | .record schema =>
      enter field.ty
      inferPath env whole false (some schema) strategy (next :: rest)
    | .scalar cls =>
      if cls.isUnconstrained then return ⟨.scalar .object, strategy⟩
      else throw (.notARecord name)

theorem inferPath_segment :
    inferPath env whole first context strategy (.segment name :: rest) = (do
      match Referent.ofSegment name first context (← get) with
      | .unmodeled => return ⟨.scalar .object, strategy⟩
      | .missing schema => throw (.unknownField name schema)
      | .noContext => throw (.noContext name)
      | .found field => inferField env whole context strategy name field rest) := by
  rw [inferPath.eq_def]
  rfl

theorem inferField_plain (step : ∀ bracket, next ≠ .expr bracket) :
    inferField env whole context strategy name field (next :: rest) =
      match field.ty with
      | .record schema => do
        enter field.ty
        inferPath env whole false (some schema)
          (if field.isList then field.strategyAfter strategy else strategy) (next :: rest)
      | .scalar cls =>
        if cls.isUnconstrained then
          return ⟨.scalar .object, if field.isList then field.strategyAfter strategy else strategy⟩
        else throw (.notARecord name) := by
  cases next with
  | expr bracket => exact absurd rfl (step bracket)
  | literal | null | operator | segment | method => rfl

theorem inferPath_unmodeled
    (unknown : Referent.ofSegment name first context scope = .unmodeled) :
    inferPath env whole first context strategy (.segment name :: rest) scope =
      .ok ⟨.scalar .object, strategy⟩ scope := by
  rw [inferPath_segment, get_bind_run, unknown]
  rfl

theorem inferPath_missing {absent : String}
    (missing : Referent.ofSegment name first context scope = .missing absent) :
    inferPath env whole first context strategy (.segment name :: rest) scope =
      .error (.unknownField name absent) scope := by
  rw [inferPath_segment, get_bind_run, missing]
  rfl

theorem inferPath_noContext
    (bare : Referent.ofSegment name first context scope = .noContext) :
    inferPath env whole first context strategy (.segment name :: rest) scope =
      .error (.noContext name) scope := by
  rw [inferPath_segment, get_bind_run, bare]
  rfl

theorem referent_of_typed {after : Scope} {typing : Typing}
    (typed : inferPath env whole first context strategy (.segment name :: rest) scope =
      .ok typing after) :
    (Referent.ofSegment name first context scope = .unmodeled ∧
        typing = ⟨.scalar .object, strategy⟩) ∨
      ∃ field, Referent.ofSegment name first context scope = .found field := by
  cases referent : Referent.ofSegment name first context scope with
  | found field => exact .inr ⟨field, rfl⟩
  | unmodeled =>
      rw [inferPath_unmodeled referent] at typed
      cases typed
      exact .inl ⟨rfl, rfl⟩
  | missing schema =>
      rw [inferPath_missing referent] at typed
      cases typed
  | noContext =>
      rw [inferPath_noContext referent] at typed
      cases typed

theorem inferPath_last (found : Referent.ofSegment name first context scope = .found field) :
    inferPath env whole first context strategy [.segment name] scope =
      .ok ⟨field.ty, field.strategyAfter strategy⟩ scope := by
  rw [inferPath_segment, get_bind_run, found]
  rfl

theorem inferPath_lastBracket
    (found : Referent.ofSegment name first context scope = .found field) :
    inferPath env whole first context strategy [.segment name, .expr bracket] scope =
      (do
        let typing ← bracket.infer env (field.ty.record?.or context)
        return ⟨field.ty, strategyAfterBracket bracket typing strategy⟩ : ScopeM Typing)
        (scope.enter field.ty) := by
  rw [inferPath_segment, get_bind_run, found]
  rfl

theorem inferPath_bracketed_record
    (found : Referent.ofSegment name first context scope = .found field)
    (shape : field.ty = .record schema) :
    inferPath env whole first context strategy (.segment name :: .expr bracket :: next :: rest)
        scope =
      (do
        let typing ← bracket.infer env (some schema)
        inferPath env whole false (some schema) (strategyAfterBracket bracket typing strategy)
          (next :: rest))
        (scope.enter field.ty) := by
  rw [inferPath_segment, get_bind_run, found]
  obtain ⟨title, ty, isList, declared⟩ := field
  obtain rfl : ty = .record schema := shape
  rfl

theorem inferPath_bracketed_scalar
    (found : Referent.ofSegment name first context scope = .found field)
    (shape : field.ty = .scalar cls) :
    inferPath env whole first context strategy (.segment name :: .expr bracket :: next :: rest)
        scope =
      (do
        let typing ← bracket.infer env context
        if cls.isUnconstrained then
          return ⟨.scalar .object, strategyAfterBracket bracket typing strategy⟩
        else throw (.notARecord name) : ScopeM Typing)
        (scope.enter field.ty) := by
  rw [inferPath_segment, get_bind_run, found]
  obtain ⟨title, ty, isList, declared⟩ := field
  obtain rfl : ty = .scalar cls := shape
  rfl

theorem inferPath_plain_record (step : ∀ bracket, next ≠ .expr bracket)
    (found : Referent.ofSegment name first context scope = .found field)
    (shape : field.ty = .record schema) :
    inferPath env whole first context strategy (.segment name :: next :: rest) scope =
      inferPath env whole false (some schema)
        (if field.isList then field.strategyAfter strategy else strategy) (next :: rest)
        (scope.enter field.ty) := by
  rw [inferPath_segment, get_bind_run, found]
  change inferField env whole context strategy name field (next :: rest) scope = _
  rw [inferField_plain step, shape]
  rfl

theorem inferPath_plain_scalar (step : ∀ bracket, next ≠ .expr bracket)
    (found : Referent.ofSegment name first context scope = .found field)
    (shape : field.ty = .scalar cls) :
    inferPath env whole first context strategy (.segment name :: next :: rest) scope =
      if cls.isUnconstrained then
        .ok ⟨.scalar .object, if field.isList then field.strategyAfter strategy else strategy⟩ scope
      else .error (.notARecord name) scope := by
  rw [inferPath_segment, get_bind_run, found]
  change inferField env whole context strategy name field (next :: rest) scope = _
  rw [inferField_plain step, shape]
  dsimp only
  split <;> rfl

theorem inferPath_other (step : ∀ name, next ≠ .segment name) :
    inferPath env whole first context strategy (next :: rest) scope =
      .error (.unexpectedPart next.text (Expr.path whole).text) scope := by
  rw [inferPath]
  · rfl
  · exact step

def checkField (env : Env) (context : Option Record) (field : Field) :
    List Part → ScopeM (List Finding)
  | [] => return []
  | .expr bracket :: rest => do
    enter field.ty
    let inner := field.ty.record?.or context
    let single := if field.isList then [] else [.bracketOnSingle field.name]
    let findings ← bracket.check env inner
    match field.ty, rest with
    | .scalar cls, _ :: _ =>
      return single ++ findings ++
        if cls.isUnconstrained then [] else [.notARecord field.name]
    | _, _ => return single ++ findings ++ (← checkPath env false inner rest)
  | next :: rest =>
    match field.ty with
    | .record schema => do
      enter field.ty
      checkPath env false (some schema) (next :: rest)
    | .scalar cls => return if cls.isUnconstrained then [] else [.notARecord field.name]

theorem checkPath_segment :
    checkPath env first context (.segment name :: rest) = (do
      match Referent.ofSegment name first context (← get) with
      | .found field => checkField env context field rest
      | other => return (other.finding? name).toList) := by
  rw [checkPath.eq_def]
  rfl

theorem checkField_plain (step : ∀ bracket, next ≠ .expr bracket) :
    checkField env context field (next :: rest) =
      match field.ty with
      | .record schema => do
        enter field.ty
        checkPath env false (some schema) (next :: rest)
      | .scalar cls => return if cls.isUnconstrained then [] else [.notARecord field.name] := by
  cases next with
  | expr bracket => exact absurd rfl (step bracket)
  | literal | null | operator | segment | method => rfl

theorem checkPath_nil : checkPath env first context [] = pure [] := by
  rw [checkPath]

theorem checkPath_missing {absent : String}
    (missing : Referent.ofSegment name first context scope = .missing absent) :
    checkPath env first context (.segment name :: rest) scope =
      .ok [.missingField name absent] scope := by
  rw [checkPath_segment, get_bind_run, missing]
  rfl

theorem checkPath_noContext
    (bare : Referent.ofSegment name first context scope = .noContext) :
    checkPath env first context (.segment name :: rest) scope =
      .ok [if name = selfReference then .selfWithoutContext else .noSchema name] scope := by
  rw [checkPath_segment, get_bind_run, bare]
  rfl

theorem checkPath_unmodeled
    (unknown : Referent.ofSegment name first context scope = .unmodeled) :
    checkPath env first context (.segment name :: rest) scope = .ok [] scope := by
  rw [checkPath_segment, get_bind_run, unknown]
  rfl

theorem checkPath_last (found : Referent.ofSegment name first context scope = .found field) :
    checkPath env first context [.segment name] scope = .ok [] scope := by
  rw [checkPath_segment, get_bind_run, found]
  rfl

def Field.bracketFindings (field : Field) : List Finding :=
  if field.isList then [] else [.bracketOnSingle field.name]

theorem checkPath_lastBracket
    (found : Referent.ofSegment name first context scope = .found field) :
    checkPath env first context [.segment name, .expr bracket] scope =
      (do
        let findings ← bracket.check env (field.ty.record?.or context)
        return field.bracketFindings ++ findings : ScopeM (List Finding))
        (scope.enter field.ty) := by
  rw [checkPath_segment, get_bind_run, found]
  obtain ⟨title, ty, isList, declared⟩ := field
  cases ty with
  | record schema | scalar cls =>
      simp only [checkField, checkPath_nil, pure_bind, List.append_nil]
      rfl

theorem checkPath_bracketed_record
    (found : Referent.ofSegment name first context scope = .found field)
    (shape : field.ty = .record schema) :
    checkPath env first context (.segment name :: .expr bracket :: next :: rest) scope =
      (do
        let findings ← bracket.check env (some schema)
        let later ← checkPath env false (some schema) (next :: rest)
        return field.bracketFindings ++ findings ++ later : ScopeM (List Finding))
        (scope.enter field.ty) := by
  rw [checkPath_segment, get_bind_run, found]
  obtain ⟨title, ty, isList, declared⟩ := field
  obtain rfl : ty = .record schema := shape
  rfl

theorem checkPath_bracketed_scalar
    (found : Referent.ofSegment name first context scope = .found field)
    (shape : field.ty = .scalar cls) :
    checkPath env first context (.segment name :: .expr bracket :: next :: rest) scope =
      (do
        let findings ← bracket.check env context
        return field.bracketFindings ++ findings ++
          if cls.isUnconstrained then [] else [.notARecord field.name] : ScopeM (List Finding))
        (scope.enter field.ty) := by
  rw [checkPath_segment, get_bind_run, found]
  obtain ⟨title, ty, isList, declared⟩ := field
  obtain rfl : ty = .scalar cls := shape
  rfl

theorem checkPath_plain_record (step : ∀ bracket, next ≠ .expr bracket)
    (found : Referent.ofSegment name first context scope = .found field)
    (shape : field.ty = .record schema) :
    checkPath env first context (.segment name :: next :: rest) scope =
      checkPath env false (some schema) (next :: rest) (scope.enter field.ty) := by
  rw [checkPath_segment, get_bind_run, found]
  change checkField env context field (next :: rest) scope = _
  rw [checkField_plain step, shape]
  rfl

theorem checkPath_plain_scalar (step : ∀ bracket, next ≠ .expr bracket)
    (found : Referent.ofSegment name first context scope = .found field)
    (shape : field.ty = .scalar cls) :
    checkPath env first context (.segment name :: next :: rest) scope =
      .ok (if cls.isUnconstrained then [] else [.notARecord field.name]) scope := by
  rw [checkPath_segment, get_bind_run, found]
  change checkField env context field (next :: rest) scope = _
  rw [checkField_plain step, shape]
  rfl

theorem checkPath_other (step : ∀ name, next ≠ .segment name) :
    checkPath env first context (next :: rest) scope = .ok [.notAStep next.text] scope := by
  rw [checkPath]
  · rfl
  · exact step

end TypedPath
