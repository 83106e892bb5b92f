import TypedPath.Proofs.FaultyForms

/-! Findings and failures are kept apart: a check fails only where an operation is malformed or
nested too deeply, although it asks for the types of operands and arguments on its way. -/

namespace TypedPath

def Failure.OfForm (failure : Failure) : Prop :=
  (∃ operation, failure = .noOperator operation) ∨
    (∃ part operation, failure = .unexpectedPart part operation) ∨
    ∃ limit, failure = .tooDeep limit

def FailsByForm {α : Type} (body : ScopeM α) : Prop :=
  ∀ scope failure after, body scope = .error failure after → failure.OfForm

theorem OperatorForm.failure_ofForm {parts : List Part} {failure : Failure}
    (failed : OperatorForm.ofParts parts = .error failure) : failure.OfForm := by
  unfold OperatorForm.ofParts at failed
  split at failed
  · cases failed
    exact .inl ⟨_, rfl⟩
  · cases failed
    exact .inr (.inl ⟨_, _, rfl⟩)
  · cases failed
    exact .inr (.inl ⟨_, _, rfl⟩)
  · cases failed

theorem methodName_failure_ofForm {parts : List Part} {failure : Failure}
    (failed : methodName parts = .error failure) : failure.OfForm := by
  unfold methodName at failed
  split at failed
  · cases failed
  · cases failed
    exact .inr (.inl ⟨_, _, rfl⟩)
  · cases failed
    exact .inr (.inl ⟨_, _, rfl⟩)

theorem Expr.FaultyForm.ofForm {expr : Expr} {failure : Failure}
    (faulty : expr.FaultyForm failure) : failure.OfForm := by
  induction faulty with
  | operator unformed => exact OperatorForm.failure_ofForm unformed
  | operand => exact .inr (.inl ⟨_, _, rfl⟩)
  | method unnamed => exact methodName_failure_ofForm unnamed
  | argument => exact .inr (.inl ⟨_, _, rfl⟩)
  | inside _ _ _ ih => exact ih

theorem Expr.check_failsByForm (env : Env) (expr : Expr) (context : Option Record) :
    FailsByForm (expr.check env context) := by
  intro scope failure after failed
  rcases expr.check_failsOnly env context scope failure after failed with
    ⟨limit, _, deep⟩ | faulty
  · exact .inr (.inr ⟨limit, deep⟩)
  · exact faulty.ofForm

/-- A check ends in a failure only for an operator without its symbol, a part out of place or
nesting beyond the limit; whatever else is wrong is a finding. -/
theorem check_failure_is_of_form (env : Env) (expr : Expr) (context : Option Record)
    (scope after : Scope) (failure : Failure)
    (failed : expr.check env context scope = .error failure after) :
    (∃ operation, failure = .noOperator operation) ∨
      (∃ part operation, failure = .unexpectedPart part operation) ∨
      ∃ limit, failure = .tooDeep limit :=
  expr.check_failsByForm env context scope failure after failed

/-- A filter that compares with a bare segment: `items[size > limit]`. -/
def strayOperand : Expr :=
  .path [.segment "items",
    .expr (.operator [.expr (.path [.segment "size"]), .operator .greater, .segment "limit"])]

theorem check_failure_is_of_form_strayOperand :
    strayOperand.check .standard (some orderSchema) (.start (some orderSchema)) =
        .error (.unexpectedPart "limit" "size > limit") (.start (some orderSchema)) ∧
      ((∃ operation, Failure.unexpectedPart "limit" "size > limit" = .noOperator operation) ∨
        (∃ part operation,
          Failure.unexpectedPart "limit" "size > limit" = .unexpectedPart part operation) ∨
        ∃ limit, Failure.unexpectedPart "limit" "size > limit" = .tooDeep limit) :=
  ⟨rfl, check_failure_is_of_form .standard strayOperand (some orderSchema)
    (.start (some orderSchema)) (.start (some orderSchema)) _ rfl⟩

end TypedPath
