import TypedPath.Proofs.CheckSound

/-! Where a check stops: at an operation that is malformed, with the failure that tells how, or at
the limit of nesting. That it asks for the types of operands and arguments on its way adds no other
failures. -/

namespace TypedPath

open ScopeM

def Part.isOperand : Part → Bool
  | .null | .literal _ | .expr _ => true
  | .operator _ | .segment _ | .method _ => false

/-- The expression or an operation inside it is malformed, and the failure tells how. What stands in
a literal operation is never looked at. -/
inductive Expr.FaultyForm : Expr → Failure → Prop where
  | operator {parts : List Part} {failure : Failure}
      (unformed : OperatorForm.ofParts parts = .error failure) :
      FaultyForm (.operator parts) failure
  | operand {parts : List Part} {form : OperatorForm} {part : Part}
      (formed : OperatorForm.ofParts parts = .ok form)
      (side : form.left = some part ∨ form.right = some part) (stray : part.isOperand = false) :
      FaultyForm (.operator parts) (.unexpectedPart part.text (Expr.operator parts).text)
  | method {parts : List Part} {failure : Failure}
      (unnamed : methodName parts = .error failure) :
      FaultyForm (.call parts) failure
  | argument {parts : List Part} {part : Part} (member : part ∈ methodArguments parts)
      (stray : part.isOperand = false) :
      FaultyForm (.call parts) (.unexpectedPart part.text (Expr.call parts).text)
  | inside {expr inner : Expr} {failure : Failure} (opened : ∀ parts, expr ≠ .literal parts)
      (member : Part.expr inner ∈ expr.parts) (faulty : FaultyForm inner failure) :
      FaultyForm expr failure

def FailsOnly {α : Type} (lost : Failure → Prop) (body : ScopeM α) : Prop :=
  ∀ scope failure after, body scope = .error failure after → lost failure

section FailsOnly

variable {α β : Type} {lost : Failure → Prop}

theorem FailsOnly.mono {more : Failure → Prop} {body : ScopeM α} (fails : FailsOnly lost body)
    (within : ∀ failure, lost failure → more failure) : FailsOnly more body :=
  fun scope failure after failed => within failure (fails scope failure after failed)

theorem failsOnly_pure (value : α) : FailsOnly lost (pure value) := by
  intro scope failure after failed
  cases failed

theorem failsOnly_throw {failure : Failure} (known : lost failure) :
    FailsOnly lost (throw failure : ScopeM α) := by
  intro scope failure after failed
  cases failed
  exact known

theorem failsOnly_get : FailsOnly lost get := by
  intro scope failure after failed
  cases failed

theorem failsOnly_enter (ty : Ty) : FailsOnly lost (enter ty) := by
  intro scope failure after failed
  cases failed

theorem failsOnly_bind {body : ScopeM α} {next : α → ScopeM β} (first : FailsOnly lost body)
    (second : ∀ value, FailsOnly lost (next value)) : FailsOnly lost (body >>= next) := by
  intro scope failure after failed
  rcases bind_eq_error.mp failed with failed | ⟨value, middle, _, failed⟩
  · exact first scope failure after failed
  · exact second value middle failure after failed

theorem failsOnly_lift_bind {result : Except Failure α} {next : α → ScopeM β}
    (first : ∀ failure, result = .error failure → lost failure)
    (second : ∀ value, result = .ok value → FailsOnly lost (next value)) :
    FailsOnly lost (lift result >>= next) := by
  intro scope failure after failed
  rcases bind_eq_error.mp failed with failed | ⟨value, middle, done, failed⟩
  · exact first failure (lift_eq_error.mp failed).1
  · exact second value (lift_eq_ok.mp done).1 middle failure after failed

theorem failsOnly_oneDeeper {env : Env} {body : ScopeM α}
    (limit : ∀ limit, env.config.maxDepth = some limit → lost (.tooDeep limit))
    (inside : FailsOnly lost body) : FailsOnly lost (oneDeeper env body) := by
  intro scope failure after failed
  rcases oneDeeper_eq_error failed with ⟨most, limited, rfl⟩ | ⟨inner, failed⟩
  · exact limit most limited
  · exact inside _ failure inner failed

theorem failsOnly_leaving {body : ScopeM α} (inside : FailsOnly lost body) :
    FailsOnly lost (leaving body) := by
  intro scope failure after failed
  obtain ⟨inner, failed⟩ := leaving_eq_error failed
  exact inside scope failure inner failed

end FailsOnly

section Parts

variable {lost : Failure → Prop}

/-- The type of an operand is asked for only when its check has found nothing, and then there is
one. -/
theorem Part.check_failsOnly (env : Env) (whole : Expr) (context : Option Record) (part : Part)
    (inside : ∀ inner, part = .expr inner → FailsOnly lost (inner.check env context))
    (outside : part.isOperand = false → lost (.unexpectedPart part.text whole.text)) :
    FailsOnly lost (part.check env whole context) := by
  cases part with
  | literal value =>
      rw [Part.check]
      exact failsOnly_pure _
  | null =>
      rw [Part.check]
      exact failsOnly_pure _
  | expr inner =>
      intro scope failure after failed
      rw [Part.check, bind_eq_error] at failed
      rcases failed with failed | ⟨findings, middle, checked, failed⟩
      · exact inside inner rfl scope failure after failed
      · obtain rfl := (inner.check_restores env context).after_eq checked
        split at failed
        · rename_i quiet
          obtain rfl := List.isEmpty_iff.mp quiet
          obtain ⟨typing, typed⟩ := (inner.typedWhenClean env).typing checked
          rw [bind_run_of_ok _ typed] at failed
          cases failed
        · cases failed
  | operator op => exact failsOnly_throw (outside rfl)
  | segment name => exact failsOnly_throw (outside rfl)
  | method name => exact failsOnly_throw (outside rfl)

theorem checkSide_failsOnly (env : Env) (whole : List Part) (context : Option Record)
    (side : Option Part)
    (inside : ∀ inner, side = some (.expr inner) → FailsOnly lost (inner.check env context))
    (outside : ∀ part, side = some part → part.isOperand = false →
      lost (.unexpectedPart part.text (Expr.operator whole).text)) :
    FailsOnly lost (checkSide env whole context side) := by
  cases side with
  | none => exact failsOnly_pure _
  | some part =>
      exact part.check_failsOnly env _ context (fun inner same => inside inner (by rw [same]))
        (outside part rfl)

theorem checkArguments_failsOnly (env : Env) (whole : Expr) (method : String)
    (context : Option Record) (arguments : List Part) (position : Nat)
    (parameters : List Parameter)
    (inside : ∀ inner, Part.expr inner ∈ arguments → FailsOnly lost (inner.check env context))
    (outside : ∀ part ∈ arguments, part.isOperand = false →
      lost (.unexpectedPart part.text whole.text)) :
    FailsOnly lost (checkArguments env whole method context position parameters arguments) := by
  induction arguments generalizing position parameters with
  | nil =>
      rw [checkArguments]
      exact failsOnly_pure _
  | cons argument arguments ih =>
      cases parameters with
      | nil =>
          rw [checkArguments]
          exact failsOnly_pure _
      | cons parameter parameters =>
          have here := argument.check_failsOnly env whole context
            (fun inner same => inside inner (by simp [same])) (outside argument (by simp))
          have later := ih (position + 1) parameters
            (fun inner member => inside inner (by simp [member]))
            (fun part member => outside part (by simp [member]))
          rw [checkArguments]
          exact failsOnly_bind here fun operand =>
            failsOnly_bind later fun _ => failsOnly_pure _

theorem checkPath_failsOnly_of_field {env : Env} {rest : List Part} {first : Bool}
    {context : Option Record} {name : String}
    (behind : ∀ field, FailsOnly lost (checkField env context field rest)) :
    FailsOnly lost (checkPath env first context (.segment name :: rest)) := by
  rw [checkPath_segment]
  refine failsOnly_bind failsOnly_get fun scope => ?_
  split
  · exact behind _
  · exact failsOnly_pure _

theorem checkPath_failsOnly (env : Env) (parts : List Part)
    (brackets : ∀ bracket, Part.expr bracket ∈ parts →
      ∀ context, FailsOnly lost (bracket.check env context))
    (first : Bool) (context : Option Record) :
    FailsOnly lost (checkPath env first context parts) := by
  induction parts using steps_induction generalizing first context with
  | nil =>
      rw [checkPath_nil]
      exact failsOnly_pure _
  | last name => exact checkPath_failsOnly_of_field fun field => failsOnly_pure _
  | lastBracket name bracket =>
      have inside := brackets bracket (by simp)
      refine checkPath_failsOnly_of_field fun field => ?_
      refine failsOnly_bind (failsOnly_enter _) fun _ => ?_
      refine failsOnly_bind (inside _) fun findings => ?_
      rw [checkPath_nil]
      split
      · exact failsOnly_pure _
      · exact failsOnly_bind (failsOnly_pure _) fun _ => failsOnly_pure _
  | bracketed name bracket next rest ih =>
      have inside := brackets bracket (by simp)
      have later := ih fun inner member => brackets inner (by simp [member])
      refine checkPath_failsOnly_of_field fun field => ?_
      refine failsOnly_bind (failsOnly_enter _) fun _ => ?_
      refine failsOnly_bind (inside _) fun findings => ?_
      split
      · exact failsOnly_pure _
      · exact failsOnly_bind (later _ _) fun _ => failsOnly_pure _
  | plain name next rest step ih =>
      have later := ih fun inner member => brackets inner (by simp [member])
      refine checkPath_failsOnly_of_field fun field => ?_
      rw [checkField_plain step]
      split
      · exact failsOnly_bind (failsOnly_enter _) fun _ => later _ _
      · exact failsOnly_pure _
  | other part rest step =>
      intro scope failure after failed
      rw [checkPath_other step] at failed
      cases failed

end Parts

def Expr.StopsWith (env : Env) (expr : Expr) (failure : Failure) : Prop :=
  (∃ limit, env.config.maxDepth = some limit ∧ failure = .tooDeep limit) ∨
    expr.FaultyForm failure

theorem Expr.stopsWith_limit (env : Env) (expr : Expr) (limit : Nat)
    (limited : env.config.maxDepth = some limit) : expr.StopsWith env (.tooDeep limit) :=
  .inl ⟨limit, limited, rfl⟩

theorem Expr.StopsWith.inside {env : Env} {expr inner : Expr}
    (opened : ∀ parts, expr ≠ .literal parts) (member : Part.expr inner ∈ expr.parts)
    (failure : Failure) (stops : inner.StopsWith env failure) : expr.StopsWith env failure :=
  stops.imp_right (.inside opened member)

theorem Expr.check_failsOnly (env : Env) (expr : Expr) (context : Option Record) :
    FailsOnly (expr.StopsWith env) (expr.check env context) := by
  induction expr using Expr.parts_induction generalizing context with
  | step expr ih =>
      have inside (opened : ∀ parts, expr ≠ .literal parts) (inner : Expr)
          (member : Part.expr inner ∈ expr.parts) (context : Option Record) :
          FailsOnly (expr.StopsWith env) (inner.check env context) :=
        (ih inner member context).mono (StopsWith.inside opened member)
      cases expr with
      | literal parts =>
          rw [Expr.check]
          exact failsOnly_oneDeeper (stopsWith_limit env _) (failsOnly_pure _)
      | operator parts =>
          rw [Expr.check]
          refine failsOnly_oneDeeper (stopsWith_limit env _) (failsOnly_lift_bind
            (fun _ unformed => .inr (.operator unformed)) fun form formed => ?_)
          have whole := form.parts_eq parts formed
          split
          · exact failsOnly_pure _
          · rw [checkOperands_eq env parts context parts form formed]
            refine failsOnly_bind (failsOnly_bind ?_ fun _ => failsOnly_bind ?_ fun _ =>
              failsOnly_pure _) fun sides => ?_
            · refine checkSide_failsOnly env parts context form.left (fun inner same => ?_)
                fun part same stray => .inr (.operand formed (.inl same) stray)
              exact inside (by simp) inner (by simp [Expr.parts, whole, same]) context
            · refine checkSide_failsOnly env parts context form.right (fun inner same => ?_)
                fun part same stray => .inr (.operand formed (.inr same) stray)
              exact inside (by simp) inner (by simp [Expr.parts, whole, same]) context
            · dsimp only
              split
              · exact failsOnly_pure _
              · exact failsOnly_pure _
      | path parts =>
          rw [Expr.check]
          refine failsOnly_oneDeeper (stopsWith_limit env _) (failsOnly_leaving ?_)
          split
          · exact failsOnly_pure _
          · exact checkPath_failsOnly env parts (inside (by simp)) true context
      | call parts =>
          rw [Expr.check]
          refine failsOnly_oneDeeper (stopsWith_limit env _) (failsOnly_lift_bind
            (fun _ unnamed => .inr (.method unnamed)) fun name _ => ?_)
          split
          · exact failsOnly_pure _
          · cases parts with
            | nil => exact failsOnly_pure _
            | cons head arguments =>
                refine checkArguments_failsOnly env _ name context arguments 0 _
                  (fun inner member => ?_) fun part member stray => .inr (.argument member stray)
                exact inside (by simp) inner (by simp [Expr.parts, member]) context

end TypedPath
