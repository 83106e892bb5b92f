import TypedPath.Proofs.CheckSound
import TypedPath.Proofs.OperatorEval
import TypedPath.Query

/-! Expressions over literals alone. Whatever value such an expression has, it is of the kind of the
type that the expression is given: arithmetic is typed and evaluated by its left operand, and the
operators that would take the bits of integers are not well typed on integers. -/

namespace TypedPath

open ScopeM

mutual

/-- Whether an expression is made of literals and operators only, without increments. -/
def Expr.isClosed : Expr → Bool
  | .literal _ => true
  | .operator parts => partsClosed parts
  | .path _ | .call _ => false

def Part.isClosed : Part → Bool
  | .literal _ | .null => true
  | .operator op => op.group != .increment
  | .expr expr => expr.isClosed
  | .segment _ | .method _ => false

def partsClosed : List Part → Bool
  | [] => true
  | part :: parts => part.isClosed && partsClosed parts

end

theorem partsClosed_mem {parts : List Part} (closed : partsClosed parts = true) {part : Part}
    (member : part ∈ parts) : part.isClosed = true := by
  induction parts with
  | nil => cases member
  | cons head tail ih =>
      simp only [partsClosed, Bool.and_eq_true] at closed
      rcases List.mem_cons.mp member with rfl | member
      · exact closed.1
      · exact ih closed.2 member

def Ty.literalKind? : Ty → Option ValueKind
  | .scalar .long => some .integer
  | .scalar .double => some .float
  | .scalar .string => some .string
  | .scalar .boolean => some .boolean
  | _ => none

theorem Literal.value_kind (literal : Literal) :
    (Env.standard.literalType literal).literalKind? = some literal.value.kind := by
  cases literal <;> rfl

/-- The value of an operand beside its typing: null where there is none. -/
def Value.HasKindOf (value : Value) : Option Typing → Prop
  | none => value.kind = .null
  | some typing => typing.ty.literalKind? = some value.kind

def Expr.KindKept (expr : Expr) : Prop :=
  ∀ context scope after frame value,
    expr.check .standard context scope = .ok [] after → expr.eval .standard frame = .ok value →
      ∃ typing, expr.infer .standard context scope = .ok typing scope ∧
        typing.ty.literalKind? = some value.kind

section Operands

variable {whole : Expr} {context : Option Record} {scope after : Scope} {operand : Operand}
  {frame : Frame} {value : Value}

theorem Part.kind_kept {part : Part} (inside : ∀ inner, part = .expr inner → inner.KindKept)
    (checked : part.check .standard whole context scope = .ok operand after)
    (quiet : operand.findings = []) (evaluated : part.eval .standard frame = .ok value) :
    value.HasKindOf operand.typing := by
  cases part with
  | null =>
      rw [Part.check] at checked
      obtain ⟨rfl, _⟩ := pure_eq_ok.mp checked
      cases evaluated
      rfl
  | literal literal =>
      rw [Part.check] at checked
      obtain ⟨rfl, _⟩ := pure_eq_ok.mp checked
      cases evaluated
      exact literal.value_kind
  | expr inner =>
      obtain ⟨clean, typing, typed, inferred⟩ := Part.expr_of_quiet checked quiet
      rw [Part.eval] at evaluated
      obtain ⟨found, inferredInner, kind⟩ := inside inner rfl _ _ _ _ _ clean evaluated
      rw [inferred] at inferredInner
      cases inferredInner
      rw [typed]
      exact kind
  | operator op => cases checked
  | segment name => cases checked
  | method name => cases checked

theorem side_kind_kept {parts : List Part} {side : Option Part}
    (inside : ∀ inner, side = some (.expr inner) → inner.KindKept)
    (checked : checkSide .standard parts context side scope = .ok operand after)
    (quiet : operand.findings = []) (evaluated : evalSide .standard frame side = .ok value) :
    value.HasKindOf operand.typing := by
  cases side with
  | none =>
      obtain ⟨rfl, _⟩ := pure_eq_ok.mp checked
      cases evaluated
      rfl
  | some part =>
      exact part.kind_kept (fun inner same => inside inner (by rw [same])) checked quiet evaluated

end Operands

theorem Ty.not_unconstrained_of_literalKind {ty : Ty} {kind : ValueKind}
    (known : ty.literalKind? = some kind) : ty.isUnconstrained = false := by
  cases ty with
  | record schema => rfl
  | scalar cls =>
      cases cls with
      | object => cases known
      | boolean | string | integer | long | float | double | decimal | number | date | content
      | list | array => rfl

theorem Value.HasKindOf.constrained {value : Value} {typing : Option Typing}
    (kind : value.HasKindOf typing) : typing.any (·.ty.isUnconstrained) = false := by
  cases typing with
  | none => rfl
  | some typing => exact Ty.not_unconstrained_of_literalKind kind

theorem Value.HasKindOf.not_integer {op : Operator} {side : Side} {value : Value}
    {typing : Option Typing} (kind : value.HasKindOf typing)
    (clean : operandFindings.booleanOperand .standard op side typing = []) :
    value.kind ≠ .integer := by
  intro integer
  cases typing with
  | none =>
      rw [Value.HasKindOf, integer] at kind
      cases kind
  | some typing =>
      obtain ⟨ty, strategy⟩ := typing
      rw [Value.HasKindOf, integer] at kind
      have long : ty = .scalar .long := by
        unfold Ty.literalKind? at kind
        split at kind <;> first | assumption | cases kind
      subst long
      cases clean

theorem bits_of_clean {op : Operator} {left right : Option Typing} {leftValue rightValue : Value}
    (bits : op.isBitwise = true) (leftKind : leftValue.HasKindOf left)
    (rightKind : rightValue.HasKindOf right) (quiet : sideFindings .standard op left right = []) :
    leftValue.kind ≠ .integer := by
  have known : (left.any (·.ty.isUnconstrained) || right.any (·.ty.isUnconstrained)) = false := by
    rw [leftKind.constrained, rightKind.constrained]
    rfl
  cases op with
  | bitAnd | bitOr =>
      simp only [sideFindings, Operator.group, reduceCtorEq, decide_false, Bool.false_and,
        Bool.false_eq_true, if_false, Operator.nullFinding?, Operator.recordFinding?,
        Operator.takesRecords, if_true, known] at quiet
      exact leftKind.not_integer (List.append_eq_nil_iff.mp quiet).1
  | add | subtract | multiply | divide | modulo | power | increase | decrease | equals | notEquals
  | less | lessOrEqual | greater | greaterOrEqual | and | or | xor | notXor | not | isIn | notIn
  | like | unlike => cases bits

theorem literal_kindKept (parts : List Part) : (Expr.literal parts).KindKept := by
  intro context scope after frame value clean evaluated
  obtain ⟨typing, inferred⟩ := ((Expr.literal parts).typedWhenClean .standard).typing clean
  obtain ⟨literal, rfl, rfl⟩ := Expr.literal_of_typed inferred
  cases evaluated
  exact ⟨_, inferred, literal.value_kind⟩

theorem operator_kindKept (parts : List Part) (closed : partsClosed parts = true)
    (inside : ∀ inner, Part.expr inner ∈ parts → inner.KindKept) :
    (Expr.operator parts).KindKept := by
  intro context scope after frame value clean evaluated
  obtain ⟨allowed, form, left, right, middle, last, formed, arity, checkedLeft, checkedRight,
    noLeft, noRight, quiet⟩ := operator_of_clean clean
  have whole := form.parts_eq parts formed
  rw [Expr.eval, evalOperator_eq _ _ _ _ form formed] at evaluated
  obtain ⟨leftValue, evaluatedLeft, evaluated⟩ := except_bind_eq_ok.mp evaluated
  obtain ⟨rightValue, evaluatedRight, evaluated⟩ := except_bind_eq_ok.mp evaluated
  have leftKind := side_kind_kept (fun inner same => inside inner (by rw [whole, same]; simp))
    checkedLeft noLeft evaluatedLeft
  have rightKind := side_kind_kept (fun inner same => inside inner (by rw [whole, same]; simp))
    checkedRight noRight evaluatedRight
  obtain ⟨typing, last, given, inferred⟩ :=
    infer_operator_of_sides allowed formed arity checkedLeft noLeft quiet
  obtain rfl := ((Expr.operator parts).infer_restores .standard context).after_eq inferred
  refine ⟨typing, inferred, ?_⟩
  unfold Operator.typingOver at given
  by_cases group : form.operator.group = .arithmetic
  · rw [if_pos group] at given
    obtain ⟨operand, typed, rfl⟩ := Option.map_eq_some_iff.mp given
    rw [Operator.operate_arithmetic group] at evaluated
    rw [typed] at leftKind
    rw [arithmetic_kind evaluated]
    exact leftKind
  · rw [if_neg group] at given
    cases given
    have noStep : form.operator.group ≠ .increment := by
      have member : Part.operator form.operator ∈ parts := by
        rw [whole]
        simp
      simpa [Part.isClosed] using partsClosed_mem closed member
    have kind := Operator.operate_test_kind group noStep
      (fun bits => .inl (bits_of_clean bits leftKind rightKind quiet)) evaluated
    rw [kind]
    rfl

theorem Expr.kindKept (expr : Expr) (closed : expr.isClosed = true) : expr.KindKept := by
  induction expr using Expr.parts_induction with
  | step expr ih =>
      cases expr with
      | literal parts => exact literal_kindKept parts
      | operator parts =>
          have closedParts : partsClosed parts = true := by simpa only [Expr.isClosed] using closed
          refine operator_kindKept parts closedParts fun inner member => ih inner member ?_
          simpa only [Part.isClosed] using partsClosed_mem closedParts member
      | path parts => simp [Expr.isClosed] at closed
      | call parts => simp [Expr.isClosed] at closed

/-- The value of a well typed expression over literals, on whatever content, is of the kind of the
type of the expression: integers of the long ones, floats of the double ones, texts and booleans. -/
theorem closed_value_has_kind_of_type (expr : Expr) (content : Content) (value : Value)
    (closed : expr.isClosed = true) (valid : expr.validate .standard none = .ok [])
    (evaluated : expr.evaluate .standard content = .ok value) :
    ∃ ty, expr.type .standard none = .ok ty ∧ ty.literalKind? = some value.kind := by
  obtain ⟨after, clean⟩ := Expr.validate_eq_nil.mp valid
  obtain ⟨typing, inferred, kind⟩ := expr.kindKept closed _ _ _ _ _ clean evaluated
  have typed : expr.typing .standard none = .ok typing :=
    ScopeM.runFrom_eq_ok.mpr ⟨_, inferred⟩
  refine ⟨typing.ty, ?_, kind⟩
  rw [Expr.type, typed]
  rfl

/-- The test `(7 - 2 > 4) & !null`. -/
def differenceTest : Expr :=
  .operator [
    .expr (.operator [
      .expr (.operator [.literal (.integer 7), .operator .subtract, .literal (.integer 2)]),
      .operator .greater, .expr (.literal [.literal (.integer 4)])]),
    .operator .bitAnd, .expr (.operator [.operator .not, .null])]

theorem closed_value_has_kind_of_type_differenceTest :
    differenceTest.isClosed = true ∧ differenceTest.validate .standard none = .ok [] ∧
      differenceTest.evaluate .standard (.map []) = .ok (.boolean true) ∧
      ∃ ty, differenceTest.type .standard none = .ok ty ∧ ty.literalKind? = some .boolean := by
  have closed : differenceTest.isClosed = true := by decide
  have valid : differenceTest.validate .standard none = .ok [] := by rfl
  have evaluated : differenceTest.evaluate .standard (.map []) = .ok (.boolean true) := by rfl
  exact ⟨closed, valid, evaluated, closed_value_has_kind_of_type _ _ _ closed valid evaluated⟩

end TypedPath
