import TypedPath.Proofs.InferGrowth
import TypedPath.Typing.Operands

/-! The rules for operands and arguments ask for conversions, never for the lack of one, and see of
a record only that it is one. So operands that pass them pass them with more conversions and in a
schema that has grown. -/

namespace TypedPath

structure Env.Widens (env wider : Env) : Prop extends env.Agrees wider where
  converts : ∀ given wanted, env.converts given wanted = true → wider.converts given wanted = true

theorem Env.widens_refl (env : Env) : env.Widens env := ⟨env.agrees_refl, fun _ _ can => can⟩

abbrev OperandGrows : Option Typing → Option Typing → Prop := Option.Rel Typing.Grows

section Tests

variable {env wider : Env} {ty grown : Ty}

theorem Env.Widens.readsAsBoolean (widens : env.Widens wider) (grows : ty.Grows grown)
    (reads : env.readsAsBoolean ty = true) : wider.readsAsBoolean grown = true := by
  cases grows with
  | record inner => rfl
  | scalar cls =>
      simp only [Env.readsAsBoolean, Bool.or_eq_true] at reads ⊢
      exact reads.imp_right (widens.converts cls .boolean)

theorem Env.Widens.readsAsText (widens : env.Widens wider) (grows : ty.Grows grown)
    (reads : env.readsAsText ty.valueClass = true) :
    wider.readsAsText grown.valueClass = true := by
  rw [grows.valueClass_eq]
  simp only [Env.readsAsText, Bool.or_eq_true] at reads ⊢
  exact reads.imp_right (widens.converts _ .string)

theorem Env.Widens.canAdd (widens : env.Widens wider) (grows : ty.Grows grown)
    (adds : env.canAdd ty.valueClass = true) : wider.canAdd grown.valueClass = true := by
  rw [grows.valueClass_eq]
  simp only [Env.canAdd, Bool.or_eq_true] at adds ⊢
  exact adds.imp (Or.imp_right (widens.converts _ .string)) (widens.converts _ .double)

theorem Parameter.accepts_eq (parameter : Parameter) (grows : ty.Grows grown) :
    parameter.accepts grown = parameter.accepts ty := by
  cases grows <;> rfl

end Tests

section Pairs

variable {env wider : Env} {op : Operator} {left right grownLeft grownRight : Typing}

theorem unsupportedOperands_eq_nil {rule : OperandRule} {test : Ty → Bool} {left right : Ty} :
    unsupportedOperands op rule test left right = [] ↔ test left = true ∧ test right = true := by
  simp [unsupportedOperands]

theorem unsupportedOperands_kept {rule : OperandRule} {test milder : Ty → Bool}
    (passes : ∀ {ty grown : Ty}, ty.Grows grown → test ty = true → milder grown = true)
    (lefts : left.Grows grownLeft) (rights : right.Grows grownRight)
    (clean : unsupportedOperands op rule test left.ty right.ty = []) :
    unsupportedOperands op rule milder grownLeft.ty grownRight.ty = [] := by
  obtain ⟨leftPasses, rightPasses⟩ := unsupportedOperands_eq_nil.mp clean
  exact unsupportedOperands_eq_nil.mpr
    ⟨passes lefts.ty leftPasses, passes rights.ty rightPasses⟩

theorem castFindings_kept (widens : env.Widens wider) (lefts : left.Grows grownLeft)
    (rights : right.Grows grownRight)
    (clean : castFindings env op left.ty.valueClass right.ty.valueClass = []) :
    castFindings wider op grownLeft.ty.valueClass grownRight.ty.valueClass = [] := by
  rw [lefts.ty.valueClass_eq, rights.ty.valueClass_eq]
  have can : env.converts right.ty.valueClass left.ty.valueClass = true := by
    simpa [castFindings] using clean
  rw [castFindings, if_pos (widens.converts _ _ can)]

theorem pairFindings_kept (widens : env.Widens wider) (lefts : left.Grows grownLeft)
    (rights : right.Grows grownRight) (clean : pairFindings env op left right = []) :
    pairFindings wider op grownLeft grownRight = [] := by
  cases op with
  | add =>
      obtain ⟨supported, cast⟩ := List.append_eq_nil_iff.mp clean
      exact List.append_eq_nil_iff.mpr
        ⟨unsupportedOperands_kept widens.canAdd lefts rights supported,
          castFindings_kept widens lefts rights cast⟩
  | subtract | multiply | divide | modulo | power
  | less | lessOrEqual | greater | greaterOrEqual =>
      obtain ⟨supported, cast⟩ := List.append_eq_nil_iff.mp clean
      refine List.append_eq_nil_iff.mpr
        ⟨unsupportedOperands_kept ?_ lefts rights supported,
          castFindings_kept widens lefts rights cast⟩
      intro ty grown grows passes
      rw [grows.valueClass_eq]
      exact passes
  | equals | notEquals => exact castFindings_kept widens lefts rights clean
  | like | unlike => exact unsupportedOperands_kept widens.readsAsText lefts rights clean
  | increase | decrease | and | or | bitAnd | bitOr | xor | notXor | not | isIn | notIn => rfl

end Pairs

section Operands

variable {env wider : Env} {op : Operator} {left right grownLeft grownRight : Option Typing}

theorem OperandGrows.isNone_eq (grows : OperandGrows left grownLeft) :
    grownLeft.isNone = left.isNone := by
  cases grows <;> rfl

theorem OperandGrows.isUnconstrained_eq (grows : OperandGrows left grownLeft) :
    grownLeft.any (·.ty.isUnconstrained) = left.any (·.ty.isUnconstrained) := by
  cases grows with
  | none => rfl
  | some inner => exact inner.ty.isUnconstrained_eq

theorem OperandGrows.noRecord (grows : OperandGrows left grownLeft)
    (scalar : left.filter (!·.ty.isScalar) = none) :
    grownLeft.filter (!·.ty.isScalar) = none := by
  cases grows with
  | none => rfl
  | some inner => simpa [Option.filter, inner.ty.isScalar_eq] using scalar

theorem booleanOperand_kept {side : Side} (widens : env.Widens wider)
    (grows : OperandGrows left grownLeft)
    (clean : operandFindings.booleanOperand env op side left = []) :
    operandFindings.booleanOperand wider op side grownLeft = [] := by
  cases grows with
  | none => rfl
  | some inner =>
      simp only [operandFindings.booleanOperand, ite_eq_left_iff, reduceCtorEq, imp_false,
        not_not] at clean ⊢
      exact widens.readsAsBoolean inner.ty clean

theorem operandFindings_kept (widens : env.Widens wider) (lefts : OperandGrows left grownLeft)
    (rights : OperandGrows right grownRight) (clean : operandFindings env op left right = []) :
    operandFindings wider op grownLeft grownRight = [] := by
  cases op with
  | not =>
      cases rights with
      | none => rfl
      | some inner =>
          simp only [operandFindings, ite_eq_left_iff, reduceCtorEq, imp_false, not_not] at clean ⊢
          exact widens.readsAsBoolean inner.ty clean
  | increase | decrease =>
      cases lefts with
      | none => rfl
      | some inner =>
          simp only [operandFindings, inner.ty.valueClass_eq] at clean ⊢
          exact clean
  | and | or | bitAnd | bitOr | xor | notXor =>
      obtain ⟨cleanLeft, cleanRight⟩ := List.append_eq_nil_iff.mp clean
      exact List.append_eq_nil_iff.mpr
        ⟨booleanOperand_kept widens lefts cleanLeft, booleanOperand_kept widens rights cleanRight⟩
  | isIn | notIn =>
      cases rights with
      | none => rfl
      | some inner =>
          simp only [operandFindings, ite_eq_left_iff, reduceCtorEq, imp_false, not_not] at clean ⊢
          rw [Typing.givesMany, inner.strategy, inner.ty.class_eq]
          exact clean
  | add | subtract | multiply | divide | modulo | power | equals | notEquals
  | less | lessOrEqual | greater | greaterOrEqual | like | unlike =>
      cases lefts with
      | none => rfl
      | some leftGrows =>
          cases rights with
          | none => rfl
          | some rightGrows =>
              simp only [operandFindings] at clean ⊢
              exact pairFindings_kept widens leftGrows rightGrows clean

theorem Operator.nullFinding?_eq (lefts : OperandGrows left grownLeft)
    (rights : OperandGrows right grownRight) :
    op.nullFinding? grownLeft grownRight = op.nullFinding? left right := by
  unfold Operator.nullFinding?
  rw [lefts.isNone_eq, rights.isNone_eq]

theorem Operator.recordFinding?_eq_none :
    op.recordFinding? left right = none ↔
      op.takesRecords = true ∨
        left.filter (!·.ty.isScalar) = none ∧ right.filter (!·.ty.isScalar) = none := by
  unfold Operator.recordFinding?
  generalize left.filter (!·.ty.isScalar) = leftRecord
  generalize right.filter (!·.ty.isScalar) = rightRecord
  by_cases takes : op.takesRecords
  · simp [takes]
  · cases leftRecord <;> cases rightRecord <;> simp [takes]

theorem Operator.recordFinding?_kept (lefts : OperandGrows left grownLeft)
    (rights : OperandGrows right grownRight) (clean : op.recordFinding? left right = none) :
    op.recordFinding? grownLeft grownRight = none := by
  rw [Operator.recordFinding?_eq_none] at clean ⊢
  exact clean.imp_right (And.imp lefts.noRecord rights.noRecord)

/-- Operands that an operator takes without findings it takes with more conversions, and in a schema
that has grown. -/
theorem sideFindings_kept (widens : env.Widens wider) (lefts : OperandGrows left grownLeft)
    (rights : OperandGrows right grownRight) (clean : sideFindings env op left right = []) :
    sideFindings wider op grownLeft grownRight = [] := by
  unfold sideFindings at clean ⊢
  rw [lefts.isNone_eq, rights.isNone_eq, Operator.nullFinding?_eq lefts rights,
    lefts.isUnconstrained_eq, rights.isUnconstrained_eq]
  split at clean
  · rename_i withNull
    rw [if_pos withNull]
  · rename_i withoutNull
    rw [if_neg withoutNull]
    cases null : op.nullFinding? left right with
    | some finding => simp [null] at clean
    | none =>
        cases record : op.recordFinding? left right with
        | some finding => simp [null, record] at clean
        | none =>
            simp only [null, record, Operator.recordFinding?_kept lefts rights record] at clean ⊢
            split at clean
            · rename_i unconstrained
              rw [if_pos unconstrained]
            · rename_i constrained
              rw [if_neg constrained]
              exact operandFindings_kept widens lefts rights clean

end Operands

end TypedPath
