import TypedPath.Proofs.ScopeKept

/-! An expression in which a check finds nothing wrong can be typed: whatever typing would fail at,
a check has found before. -/

namespace TypedPath

open ScopeM

def Expr.TypedWhenClean (env : Env) (expr : Expr) : Prop :=
  ∀ context scope after, expr.check env context scope = .ok [] after →
    ∃ typing last, expr.infer env context scope = .ok typing last

theorem Expr.TypedWhenClean.typing {env : Env} {expr : Expr} (typed : expr.TypedWhenClean env)
    {context : Option Record} {scope after : Scope}
    (clean : expr.check env context scope = .ok [] after) :
    ∃ typing, expr.infer env context scope = .ok typing scope := by
  obtain ⟨typing, last, inferred⟩ := typed context scope after clean
  obtain rfl := (expr.infer_restores env context).after_eq inferred
  exact ⟨typing, inferred⟩

theorem referent_of_clean {env : Env} {first : Bool} {context : Option Record} {name : String}
    {rest : List Part} {scope after : Scope}
    (clean : checkPath env first context (.segment name :: rest) scope = .ok [] after) :
    Referent.ofSegment name first context scope = .unmodeled ∨
      ∃ field, Referent.ofSegment name first context scope = .found field := by
  cases referent : Referent.ofSegment name first context scope with
  | found field => exact .inr ⟨field, rfl⟩
  | unmodeled => exact .inl rfl
  | missing schema =>
      rw [checkPath_missing referent] at clean
      cases clean
  | noContext =>
      rw [checkPath_noContext referent] at clean
      cases clean

theorem inferPath_of_clean (env : Env) (whole parts : List Part)
    (brackets : ∀ bracket, Part.expr bracket ∈ parts → bracket.TypedWhenClean env)
    (first : Bool) (context : Option Record) (strategy : Option Strategy) (scope after : Scope)
    (nonempty : parts ≠ [])
    (clean : checkPath env first context parts scope = .ok [] after) :
    ∃ typing inner, inferPath env whole first context strategy parts scope = .ok typing inner := by
  induction parts using steps_induction generalizing first context strategy scope after with
  | nil => exact absurd rfl nonempty
  | last name =>
      rcases referent_of_clean clean with unknown | ⟨field, found⟩
      · exact ⟨_, _, inferPath_unmodeled unknown⟩
      · exact ⟨_, _, inferPath_last found⟩
  | lastBracket name bracket =>
      rcases referent_of_clean clean with unknown | ⟨field, found⟩
      · exact ⟨_, _, inferPath_unmodeled unknown⟩
      rw [checkPath_lastBracket found, bind_eq_ok] at clean
      obtain ⟨findings, middle, checked, done⟩ := clean
      obtain ⟨quiet, rfl⟩ := pure_eq_ok.mp done
      obtain ⟨_, rfl⟩ := List.append_eq_nil_iff.mp quiet
      obtain ⟨typing, typed⟩ := (brackets bracket (by simp)).typing checked
      rw [inferPath_lastBracket found, bind_run_of_ok _ typed]
      exact ⟨_, _, rfl⟩
  | bracketed name bracket next rest ih =>
      rcases referent_of_clean clean with unknown | ⟨field, found⟩
      · exact ⟨_, _, inferPath_unmodeled unknown⟩
      cases shape : field.ty with
      | record schema =>
          rw [checkPath_bracketed_record found shape, bind_eq_ok] at clean
          obtain ⟨findings, middle, checked, clean⟩ := clean
          obtain ⟨more, last, checkedLater, done⟩ := bind_eq_ok.mp clean
          obtain ⟨quiet, rfl⟩ := pure_eq_ok.mp done
          simp only [List.append_eq_nil_iff] at quiet
          obtain ⟨⟨_, rfl⟩, rfl⟩ := quiet
          obtain rfl := (bracket.check_restores env (some schema)).after_eq checked
          obtain ⟨typing, typed⟩ := (brackets bracket (by simp)).typing checked
          rw [inferPath_bracketed_record found shape, bind_run_of_ok _ typed]
          exact ih (fun inner member => brackets inner (by simp [member])) _ _ _ _ _ (by simp)
            checkedLater
      | scalar cls =>
          rw [checkPath_bracketed_scalar found shape, bind_eq_ok] at clean
          obtain ⟨findings, middle, checked, done⟩ := clean
          obtain ⟨quiet, rfl⟩ := pure_eq_ok.mp done
          simp only [List.append_eq_nil_iff] at quiet
          obtain ⟨⟨_, rfl⟩, below⟩ := quiet
          have free : cls.isUnconstrained = true := by simpa using below
          obtain ⟨typing, typed⟩ := (brackets bracket (by simp)).typing checked
          rw [inferPath_bracketed_scalar found shape, bind_run_of_ok _ typed, if_pos free]
          exact ⟨_, _, rfl⟩
  | plain name next rest step ih =>
      rcases referent_of_clean clean with unknown | ⟨field, found⟩
      · exact ⟨_, _, inferPath_unmodeled unknown⟩
      cases shape : field.ty with
      | record schema =>
          rw [checkPath_plain_record step found shape] at clean
          rw [inferPath_plain_record step found shape]
          exact ih (fun inner member => brackets inner (by simp [member])) _ _ _ _ _ (by simp) clean
      | scalar cls =>
          rw [checkPath_plain_scalar step found shape] at clean
          have free : cls.isUnconstrained = true ∧ scope = after := by simpa using clean
          rw [inferPath_plain_scalar step found shape, if_pos free.1]
          exact ⟨_, _, rfl⟩
  | other part rest step =>
      rw [checkPath_other step] at clean
      cases clean

theorem Part.expr_of_quiet {env : Env} {whole : Expr} {context : Option Record} {inner : Expr}
    {scope after : Scope} {operand : Operand}
    (checked : (Part.expr inner).check env whole context scope = .ok operand after)
    (quiet : operand.findings = []) :
    inner.check env context scope = .ok [] scope ∧
      ∃ typing, operand.typing = some typing ∧
        inner.infer env context scope = .ok typing scope := by
  rw [Part.check, bind_eq_ok] at checked
  obtain ⟨findings, middle, clean, checked⟩ := checked
  obtain rfl := (inner.check_restores env context).after_eq clean
  split at checked
  · rename_i empty
    obtain rfl := List.isEmpty_iff.mp empty
    obtain ⟨typing, last, inferred, done⟩ := bind_eq_ok.mp checked
    obtain ⟨rfl, _⟩ := pure_eq_ok.mp done
    obtain rfl := (inner.infer_restores env context).after_eq inferred
    exact ⟨clean, typing, rfl, inferred⟩
  · rename_i loud
    obtain ⟨rfl, _⟩ := pure_eq_ok.mp checked
    exact absurd (List.isEmpty_iff.mpr quiet) loud

theorem OperatorForm.left_isSome {form : OperatorForm} (fits : form.arityFinding? = none)
    (takes : form.operator.takesLeft = true) : ∃ part, form.left = some part := by
  cases side : form.left with
  | some part => exact ⟨part, rfl⟩
  | none => simp [OperatorForm.arityFinding?, side, takes] at fits

theorem Operator.takesLeft_of_arithmetic {op : Operator} (arithmetic : op.group = .arithmetic) :
    op.takesLeft = true := by
  cases op <;> simp [Operator.group, Operator.takesLeft] at arithmetic ⊢

theorem left_typed_of_clean {env : Env} {op : Operator} {left right : Option Typing}
    (arithmetic : op.group = .arithmetic) (clean : sideFindings env op left right = []) :
    ∃ typing, left = some typing := by
  cases left with
  | some typing => exact ⟨typing, rfl⟩
  | none =>
      simp [sideFindings, Operator.nullFinding?, arithmetic,
        Operator.takesLeft_of_arithmetic arithmetic] at clean

theorem inferLeft_of_typed {env : Env} {context : Option Record} {whole : Expr} {part : Part}
    {rest : List Part} {scope after : Scope} {operand : Operand} {typing : Typing}
    (checked : part.check env whole context scope = .ok operand after)
    (quiet : operand.findings = []) (typed : operand.typing = some typing) :
    inferLeft env context (part :: rest) scope = .ok (.single typing.ty) scope := by
  cases part with
  | literal value =>
      rw [Part.check] at checked
      obtain ⟨rfl, _⟩ := pure_eq_ok.mp checked
      cases typed
      rfl
  | null =>
      rw [Part.check] at checked
      obtain ⟨rfl, _⟩ := pure_eq_ok.mp checked
      cases typed
  | expr inner =>
      obtain ⟨_, found, same, inferred⟩ := Part.expr_of_quiet checked quiet
      obtain rfl := Option.some.inj (typed.symm.trans same)
      rw [inferLeft, bind_run_of_ok _ inferred]
      rfl
  | operator op => cases checked
  | segment name => cases checked
  | method name => cases checked

/-- What a check of an operator without findings has seen: a form with the operands that the
operator takes, and operands without findings that pass its rules. -/
theorem operator_of_clean {env : Env} {context : Option Record} {parts : List Part}
    {scope after : Scope}
    (clean : (Expr.operator parts).check env context scope = .ok [] after) :
    MayOpen env scope ∧ ∃ form left right middle last,
      OperatorForm.ofParts parts = .ok form ∧ form.arityFinding? = none ∧
      checkSide env parts context form.left { scope with nesting := scope.nesting + 1 } =
        .ok left middle ∧
      checkSide env parts context form.right middle = .ok right last ∧
      left.findings = [] ∧ right.findings = [] ∧
      sideFindings env form.operator left.typing right.typing = [] := by
  rw [Expr.check] at clean
  obtain ⟨allowed, inner, clean⟩ := oneDeeper_eq_ok clean
  refine ⟨allowed, ?_⟩
  obtain ⟨form, middle, lifted, clean⟩ := bind_eq_ok.mp clean
  obtain ⟨formed, rfl⟩ := lift_eq_ok.mp lifted
  cases arity : form.arityFinding? with
  | some finding =>
      simp only [arity] at clean
      obtain ⟨wrong, _⟩ := pure_eq_ok.mp clean
      cases wrong
  | none =>
      simp only [arity, checkOperands_eq env parts context parts form formed] at clean
      obtain ⟨sides, last, operands, clean⟩ := bind_eq_ok.mp clean
      obtain ⟨left, middle, checkedLeft, operands⟩ := bind_eq_ok.mp operands
      obtain ⟨right, last, checkedRight, operands⟩ := bind_eq_ok.mp operands
      obtain ⟨rfl, rfl⟩ := pure_eq_ok.mp operands
      split at clean
      · rename_i empty
        obtain ⟨noLeft, noRight⟩ : left.findings = [] ∧ right.findings = [] := by simpa using empty
        obtain ⟨quiet, _⟩ := pure_eq_ok.mp clean
        exact ⟨form, left, right, middle, _, formed, arity, checkedLeft, checkedRight, noLeft,
          noRight, quiet⟩
      · rename_i loud
        obtain ⟨quiet, _⟩ := pure_eq_ok.mp clean
        simp [quiet] at loud

theorem literal_typedWhenClean (env : Env) (parts : List Part) :
    (Expr.literal parts).TypedWhenClean env := by
  intro context scope after clean
  rw [Expr.check] at clean
  obtain ⟨allowed, inner, clean⟩ := oneDeeper_eq_ok clean
  obtain ⟨quiet, _⟩ := pure_eq_ok.mp clean
  unfold literalFindings at quiet
  split at quiet
  · rename_i value
    rw [Expr.infer]
    exact oneDeeper_succeeds allowed ⟨_, _, rfl⟩
  · cases quiet

def Operator.typingOver (op : Operator) (left : Option Typing) : Option Typing :=
  if op.group = .arithmetic then left.map fun typing => .single typing.ty
  else some (.single (.scalar .boolean))

theorem infer_operator_of_form {env : Env} {context : Option Record} {parts : List Part}
    {scope inner : Scope} {form : OperatorForm} {typing : Typing} (allowed : MayOpen env scope)
    (formed : OperatorForm.ofParts parts = .ok form)
    (done : (if form.operator.group = .arithmetic then inferLeft env context parts
      else return .single (.scalar .boolean) : ScopeM Typing)
      { scope with nesting := scope.nesting + 1 } = .ok typing inner) :
    ∃ after, (Expr.operator parts).infer env context scope = .ok typing after := by
  have lifted : lift (OperatorForm.ofParts parts) { scope with nesting := scope.nesting + 1 } =
      .ok form { scope with nesting := scope.nesting + 1 } := lift_eq_ok.mpr ⟨formed, rfl⟩
  rw [Expr.infer_operator]
  apply oneDeeper_of_ok allowed
  rw [bind_run_of_ok _ lifted]
  exact done

theorem infer_operator_of_sides {env : Env} {context : Option Record} {parts : List Part}
    {scope middle : Scope} {form : OperatorForm} {left right : Operand}
    (allowed : MayOpen env scope) (formed : OperatorForm.ofParts parts = .ok form)
    (arity : form.arityFinding? = none)
    (checkedLeft : checkSide env parts context form.left
      { scope with nesting := scope.nesting + 1 } = .ok left middle)
    (noLeft : left.findings = [])
    (quiet : sideFindings env form.operator left.typing right.typing = []) :
    ∃ typing after, form.operator.typingOver left.typing = some typing ∧
      (Expr.operator parts).infer env context scope = .ok typing after := by
  unfold Operator.typingOver
  by_cases arithmetic : form.operator.group = .arithmetic
  · obtain ⟨part, side⟩ :=
      OperatorForm.left_isSome arity (Operator.takesLeft_of_arithmetic arithmetic)
    obtain ⟨typing, typed⟩ := left_typed_of_clean arithmetic quiet
    have whole := form.parts_eq parts formed
    rw [side] at checkedLeft whole
    have inferred : inferLeft env context parts { scope with nesting := scope.nesting + 1 } =
        .ok (.single typing.ty) { scope with nesting := scope.nesting + 1 } := by
      rw [whole]
      exact inferLeft_of_typed checkedLeft noLeft typed
    obtain ⟨after, done⟩ := infer_operator_of_form allowed formed
      (by rw [if_pos arithmetic, inferred])
    refine ⟨.single typing.ty, after, ?_, done⟩
    rw [if_pos arithmetic, typed]
    rfl
  · obtain ⟨after, done⟩ := infer_operator_of_form allowed formed (by rw [if_neg arithmetic]; rfl)
    exact ⟨_, after, if_neg arithmetic, done⟩

theorem operator_typedWhenClean (env : Env) (parts : List Part) :
    (Expr.operator parts).TypedWhenClean env := by
  intro context scope after clean
  obtain ⟨allowed, form, left, right, middle, last, formed, arity, checkedLeft, _, noLeft, _,
    quiet⟩ := operator_of_clean clean
  obtain ⟨typing, after, _, inferred⟩ :=
    infer_operator_of_sides allowed formed arity checkedLeft noLeft quiet
  exact ⟨typing, after, inferred⟩

theorem path_typedWhenClean (env : Env) (parts : List Part)
    (brackets : ∀ bracket, Part.expr bracket ∈ parts → bracket.TypedWhenClean env) :
    (Expr.path parts).TypedWhenClean env := by
  intro context scope after clean
  rw [Expr.check] at clean
  obtain ⟨allowed, inner, clean⟩ := oneDeeper_eq_ok clean
  obtain ⟨inner, clean⟩ := leaving_eq_ok clean
  split at clean
  · obtain ⟨quiet, _⟩ := pure_eq_ok.mp clean
    cases quiet
  · rename_i steps
    have nonempty : parts ≠ [] := by simpa using steps
    rw [Expr.infer]
    exact oneDeeper_succeeds allowed (leaving_succeeds
      (inferPath_of_clean env parts parts brackets true context none _ _ nonempty clean))

theorem call_typedWhenClean (env : Env) (parts : List Part) :
    (Expr.call parts).TypedWhenClean env := by
  intro context scope after clean
  rw [Expr.check] at clean
  obtain ⟨allowed, inner, clean⟩ := oneDeeper_eq_ok clean
  obtain ⟨name, middle, lifted, clean⟩ := bind_eq_ok.mp clean
  obtain ⟨named, rfl⟩ := lift_eq_ok.mp lifted
  cases resolved : env.methods.resolve name (methodArguments parts).length with
  | error cause =>
      simp only [resolved] at clean
      obtain ⟨quiet, _⟩ := pure_eq_ok.mp clean
      cases quiet
  | ok signature =>
      have typed : inferCall env parts = .ok signature.returns.typing := by
        simp [inferCall, resolveCall, named, resolved, bind, Except.bind, Except.map]
      rw [Expr.infer]
      exact oneDeeper_succeeds allowed ⟨_, _, lift_eq_ok.mpr ⟨typed, rfl⟩⟩

theorem Expr.typedWhenClean (env : Env) (expr : Expr) : expr.TypedWhenClean env := by
  induction expr using Expr.parts_induction with
  | step expr ih =>
      cases expr with
      | literal parts => exact literal_typedWhenClean env parts
      | operator parts => exact operator_typedWhenClean env parts
      | path parts => exact path_typedWhenClean env parts ih
      | call parts => exact call_typedWhenClean env parts

/-- An expression in which a check finds nothing wrong is typed in the same scope and context, and
the scope stays as it is. -/
theorem clean_check_infers (env : Env) (expr : Expr) (context : Option Record)
    (scope after : Scope) (clean : expr.check env context scope = .ok [] after) :
    ∃ typing, expr.infer env context scope = .ok typing scope :=
  (expr.typedWhenClean env).typing clean

/-- A filter on a list of records: `items[size > 3]/size`. -/
def largeSizes : Expr :=
  .path [.segment "items",
    .expr (.operator [.expr (.path [.segment "size"]), .operator .greater, .literal (.integer 3)]),
    .segment "size"]

def orderSchema : Record :=
  ⟨"Order", [⟨"items", .record ⟨"Item", [⟨"size", .scalar .integer, false, none⟩], false⟩, true,
    none⟩], false⟩

theorem clean_check_infers_largeSizes :
    largeSizes.check .standard (some orderSchema) (.start (some orderSchema)) =
        .ok [] (.start (some orderSchema)) ∧
      ∃ typing, largeSizes.infer .standard (some orderSchema) (.start (some orderSchema)) =
        .ok typing (.start (some orderSchema)) :=
  ⟨rfl, clean_check_infers _ _ _ _ (.start (some orderSchema)) rfl⟩

end TypedPath
