import TypedPath.Proofs.PathEval
import TypedPath.Proofs.Shape

/-! How an operator is evaluated: its operands first, then what it makes of their values. Arithmetic
stays in the kind of its left operand. All other operators give booleans, except for the bits of two
integers. -/

namespace TypedPath

def evalSide (env : Env) (frame : Frame) : Option Part → Except EvalError Value
  | none => .ok .null
  | some part => part.eval env frame

theorem evalFirst_eq (env : Env) (frame : Frame) (right : Option Part) :
    evalFirst env frame right.toList = evalSide env frame right := by
  cases right <;> simp [evalFirst, evalSide]

theorem evalOperator_eq (env : Env) (frame : Frame) (whole parts : List Part) (form : OperatorForm)
    (formed : OperatorForm.ofParts parts = .ok form) :
    evalOperator env frame whole parts = (do
      let left ← evalSide env frame form.left
      let right ← evalSide env frame form.right
      form.operator.operate (env.listing frame.root) left right) := by
  rw [form.parts_eq parts formed]
  cases side : form.left with
  | none =>
      simp only [Option.toList_none, List.nil_append]
      rw [evalOperator, evalFirst_eq]
      rfl
  | some part =>
      have operand := form.left_ne_operator parts part formed side
      simp only [Option.toList_some, List.cons_append, List.nil_append]
      rw [evalOperator, evalFirst_eq]
      · rfl
      · exact operand

theorem evalOperator_binary {env : Env} {frame : Frame} {whole rest : List Part} {left : Part}
    {op : Operator} (operand : ∀ op, left ≠ .operator op) :
    evalOperator env frame whole (left :: .operator op :: rest) = (do
      let left ← left.eval env frame
      op.operate (env.listing frame.root) left (← evalFirst env frame rest)) := by
  rw [evalOperator]
  exact operand

theorem evalOperator_skip {env : Env} {frame : Frame} {whole rest : List Part} {part : Part}
    (operand : ∀ op, part ≠ .operator op) (behind : ∀ op after, rest ≠ .operator op :: after) :
    evalOperator env frame whole (part :: rest) = evalOperator env frame whole rest := by
  rw [evalOperator]
  · exact operand
  · exact behind

variable {listing : Listing} {left right value : Value}

theorem power_kind (done : power left right = .ok value) : value.kind = left.kind := by
  unfold power at done
  split at done
  · split at done
    · split at done <;> cases done
      rfl
    · cases done
      rfl
  · cases done
    rfl
  · cases done
    rfl
  · cases done
    rfl
  · cases done

theorem resultLike_kind {given result : Number.Decimal} (number : left.decimal? = some given)
    (done : resultLike left result = .ok value) : value.kind = left.kind := by
  cases left with
  | integer n =>
      simp only [resultLike] at done
      split at done <;> cases done
      rfl
  | float x =>
      cases done
      rfl
  | null | boolean | string | array | object | record => cases number

theorem decimalArithmetic_kind {op : Operator}
    (done : decimalArithmetic op left right = .ok value) : value.kind = left.kind := by
  unfold decimalArithmetic at done
  split at done
  · rename_i a b number _
    split at done
    · cases done
    · split at done
      · exact resultLike_kind number done
      · cases done
  · cases done

/-- The left operand decides the kind of the result. -/
theorem arithmetic_kind {op : Operator} (done : arithmetic listing op left right = .ok value) :
    value.kind = left.kind := by
  unfold arithmetic at done
  split at done
  · cases done
    rfl
  · exact power_kind done
  · exact decimalArithmetic_kind done

theorem ordering_kind {op : Operator} {test : Ordering → Bool}
    (done : ordering op test left right = .ok value) : value.kind = .boolean := by
  unfold ordering at done
  split at done <;> cases done
  rfl

theorem map_boolean_kind {verdict : Except EvalError Bool} {test : Bool → Bool}
    (done : verdict.map (fun found => Value.boolean (test found)) = .ok value) :
    value.kind = .boolean := by
  cases verdict with
  | error failure => cases done
  | ok found =>
      cases done
      rfl

namespace Operator

def isBitwise : Operator → Bool
  | bitAnd | bitOr => true
  | _ => false

theorem operate_arithmetic {op : Operator} (group : op.group = .arithmetic) (left right : Value) :
    op.operate listing left right = arithmetic listing op left right := by
  cases op with
  | add | subtract | multiply | divide | modulo | power => rfl
  | increase | decrease | equals | notEquals | less | lessOrEqual | greater | greaterOrEqual
  | and | or | bitAnd | bitOr | xor | notXor | not | isIn | notIn | like | unlike => cases group

theorem operate_bits_kind {op : Operator} (bits : op.isBitwise = true)
    (mixed : left.kind ≠ .integer ∨ right.kind ≠ .integer)
    (done : op.operate listing left right = .ok value) : value.kind = .boolean := by
  cases op with
  | bitAnd | bitOr =>
      simp only [operate] at done
      split at done
      · simp [Value.kind] at mixed
      · cases done
        rfl
  | add | subtract | multiply | divide | modulo | power | increase | decrease | equals | notEquals
  | less | lessOrEqual | greater | greaterOrEqual | and | or | xor | notXor | not | isIn | notIn
  | like | unlike => cases bits

theorem operate_test_kind {op : Operator} (test : op.group ≠ .arithmetic)
    (noStep : op.group ≠ .increment)
    (mixed : op.isBitwise = true → left.kind ≠ .integer ∨ right.kind ≠ .integer)
    (done : op.operate listing left right = .ok value) : value.kind = .boolean := by
  cases op with
  | add | subtract | multiply | divide | modulo | power => exact absurd rfl test
  | increase | decrease => exact absurd rfl noStep
  | less | lessOrEqual | greater | greaterOrEqual => exact ordering_kind done
  | bitAnd | bitOr => exact operate_bits_kind rfl (mixed rfl) done
  | isIn | notIn | like | unlike => exact map_boolean_kind done
  | equals | notEquals | and | or | xor | notXor | not =>
      cases done
      rfl

end Operator

end TypedPath
