import TypedPath.Proofs.Viewpoints

/-! Typing and checking an expression from two viewpoints that are alike. The two runs open the same
operations, find the same fields and enter the same types, so they end alike, unless the first meets
a limit that the second does not have. -/

namespace TypedPath

open ScopeM

/-- From viewpoints that are alike the expression is typed alike. -/
def Expr.InfersAlike (env other : Env) (reach : Nat) (expr : Expr) : Prop :=
  ∀ context otherContext scope start, expr.SeenAlike reach context otherContext scope start →
    FollowsUnless (env.CutsOff other reach) (outcome (expr.infer env context) scope)
      (outcome (expr.infer other otherContext) start)

def Expr.ChecksAlike (env other : Env) (reach : Nat) (expr : Expr) : Prop :=
  ∀ context otherContext scope start, expr.SeenAlike reach context otherContext scope start →
    FollowsUnless (env.CutsOff other reach) (outcome (expr.check env context) scope)
      (outcome (expr.check other otherContext) start)

section Rules

variable {env other : Env}

theorem Env.Lifts.inferLiteral_eq (lifts : env.Lifts other) (parts : List Part) :
    inferLiteral other parts = inferLiteral env parts := by
  unfold inferLiteral
  split
  · rw [lifts.literalType]
  · rfl

theorem Env.Lifts.inferCall_eq (lifts : env.Lifts other) (parts : List Part) :
    inferCall other parts = inferCall env parts := by
  simp only [inferCall, resolveCall, lifts.methods]

theorem Env.Lifts.sideFindings_eq (lifts : env.Lifts other) (op : Operator)
    (left right : Option Typing) :
    sideFindings other op left right = sideFindings env op left right := by
  have same := lifts.converts
  obtain ⟨converts, methods, config⟩ := other
  obtain rfl : converts = env.converts := same
  rfl

end Rules

section Infer

variable {env other : Env} {reach : Nat} {context otherContext : Option Record}
  {scope start : Scope}

theorem inferLeft_follows (lifts : env.Lifts other) (parts : List Part)
    (inside : ∀ inner, Part.expr inner ∈ parts → inner.InfersAlike env other reach)
    (seen : ∀ inner, Part.expr inner ∈ parts →
      inner.SeenAlike reach context otherContext scope start) :
    FollowsUnless (env.CutsOff other reach) (outcome (inferLeft env context parts) scope)
      (outcome (inferLeft other otherContext parts) start) := by
  unfold inferLeft
  split
  · rename_i left rest
    have operand := inside left List.mem_cons_self _ _ _ _ (seen left List.mem_cons_self)
    exact operand.outcome_map fun typing => Typing.single typing.ty
  · rw [lifts.literalType]
    exact followsUnless_refl _
  · exact followsUnless_refl _
  · exact followsUnless_refl _

theorem inferPath_follows_of_field {whole rest : List Part} {first : Bool}
    {strategy : Option Strategy} {name : String}
    (same : Referent.ofSegment name first context scope =
      Referent.ofSegment name first otherContext start)
    (behind : ∀ field, Referent.ofSegment name first context scope = .found field →
      Referent.ofSegment name first otherContext start = .found field →
      FollowsUnless (env.CutsOff other reach)
        (outcome (inferPath env whole first context strategy (.segment name :: rest)) scope)
        (outcome (inferPath other whole first otherContext strategy (.segment name :: rest))
          start)) :
    FollowsUnless (env.CutsOff other reach)
      (outcome (inferPath env whole first context strategy (.segment name :: rest)) scope)
      (outcome (inferPath other whole first otherContext strategy (.segment name :: rest))
        start) := by
  cases referent : Referent.ofSegment name first otherContext start with
  | found field => exact behind field (same.trans referent) referent
  | unmodeled =>
      rw [outcome_of_ok (inferPath_unmodeled (same.trans referent)),
        outcome_of_ok (inferPath_unmodeled referent)]
      exact followsUnless_refl _
  | missing schema =>
      rw [outcome_of_error (inferPath_missing (same.trans referent)),
        outcome_of_error (inferPath_missing referent)]
      exact followsUnless_refl _
  | noContext =>
      rw [outcome_of_error (inferPath_noContext (same.trans referent)),
        outcome_of_error (inferPath_noContext referent)]
      exact followsUnless_refl _

/-- The steps of a path see the context where they start only in the first segment and in a bracket
behind it. -/
theorem inferPath_follows (whole parts : List Part)
    (brackets : ∀ bracket, Part.expr bracket ∈ parts → bracket.InfersAlike env other reach)
    (first : Bool) (context otherContext : Option Record) (strategy : Option Strategy)
    (scope start : Scope)
    (seen : StepsSeenAlike parts reach first context otherContext scope start) :
    FollowsUnless (env.CutsOff other reach)
      (outcome (inferPath env whole first context strategy parts) scope)
      (outcome (inferPath other whole first otherContext strategy parts) start) := by
  induction parts using steps_induction
    generalizing first context otherContext strategy scope start with
  | nil =>
      rw [inferPath, inferPath]
      exact followsUnless_refl _
  | last name =>
      refine inferPath_follows_of_field (seen.head name _ rfl) fun field found foundOther => ?_
      rw [outcome_of_ok (inferPath_last found), outcome_of_ok (inferPath_last foundOther)]
      exact followsUnless_refl _
  | lastBracket name bracket =>
      have inside := brackets bracket (by simp)
      refine inferPath_follows_of_field (seen.head name _ rfl) fun field found foundOther => ?_
      have entered := seen.inBracket found
      rw [outcome_eq (inferPath_lastBracket found), outcome_eq (inferPath_lastBracket foundOther)]
      exact (inside _ _ _ _ entered).outcome_map _
  | bracketed name bracket next rest ih =>
      have inside := brackets bracket (by simp)
      refine inferPath_follows_of_field (seen.head name _ rfl) fun field found foundOther => ?_
      have entered := seen.inBracket found
      cases shape : field.ty with
      | record schema =>
          rw [outcome_eq (inferPath_bracketed_record found shape),
            outcome_eq (inferPath_bracketed_record foundOther shape)]
          rw [shape] at entered ⊢
          refine (inside _ _ _ _ entered).outcome_bind (bracket.infer_restores env _)
            (bracket.infer_restores other _) fun typing => ?_
          apply ih fun inner member => brackets inner (by simp [member])
          exact seen.intoRecord (by simp) schema
      | scalar cls =>
          rw [outcome_eq (inferPath_bracketed_scalar found shape),
            outcome_eq (inferPath_bracketed_scalar foundOther shape)]
          rw [shape] at entered ⊢
          refine (inside _ _ _ _ entered).outcome_bind (bracket.infer_restores env _)
            (bracket.infer_restores other _) fun typing => ?_
          split
          · exact followsUnless_refl _
          · exact followsUnless_refl _
  | plain name next rest step ih =>
      refine inferPath_follows_of_field (seen.head name _ rfl) fun field found foundOther => ?_
      cases shape : field.ty with
      | record schema =>
          rw [outcome_eq (inferPath_plain_record step found shape),
            outcome_eq (inferPath_plain_record step foundOther shape), shape]
          apply ih fun inner member => brackets inner (by simp [member])
          exact seen.intoRecord (by simp) schema
      | scalar cls =>
          unfold outcome
          rw [inferPath_plain_scalar step found shape, inferPath_plain_scalar step foundOther shape]
          cases cls.isUnconstrained <;> exact followsUnless_refl _
  | other part rest step =>
      rw [outcome_of_error (inferPath_other step), outcome_of_error (inferPath_other step)]
      exact followsUnless_refl _

theorem path_infer_follows {parts : List Part} (lifts : env.Lifts other)
    (alike : scope.Alike start) (room : scope.nesting < reach)
    (brackets : ∀ bracket, Part.expr bracket ∈ parts → bracket.InfersAlike env other reach)
    (seen : StepsSeenAlike parts reach true context otherContext
      { scope with nesting := scope.nesting + 1 } { start with nesting := start.nesting + 1 }) :
    FollowsUnless (env.CutsOff other reach) (outcome ((Expr.path parts).infer env context) scope)
      (outcome ((Expr.path parts).infer other otherContext) start) := by
  rw [Expr.infer, Expr.infer]
  refine followsUnless_oneDeeper lifts alike room ?_
  rw [outcome_leaving, outcome_leaving]
  exact inferPath_follows parts parts brackets true context otherContext none _ _ seen

theorem Expr.infersAlike (lifts : env.Lifts other) (expr : Expr) :
    expr.InfersAlike env other reach := by
  induction expr using Expr.parts_induction with
  | step expr ih =>
      intro context otherContext scope start seen
      have inside (inner : Expr) (member : Part.expr inner ∈ expr.parts) := seen.inside member
      cases expr with
      | literal parts =>
          rw [Expr.infer, Expr.infer]
          refine followsUnless_oneDeeper lifts seen.scopes seen.nesting_lt ?_
          rw [outcome_lift, outcome_lift, lifts.inferLiteral_eq]
          exact followsUnless_refl _
      | operator parts =>
          rw [Expr.infer_operator, Expr.infer_operator]
          refine followsUnless_oneDeeper lifts seen.scopes seen.nesting_lt ?_
          refine followsUnless_lift_bind fun form _ => ?_
          split
          · exact inferLeft_follows lifts parts ih inside
          · exact followsUnless_refl _
      | path parts => exact path_infer_follows lifts seen.scopes seen.nesting_lt ih seen.steps
      | call parts =>
          rw [Expr.infer, Expr.infer]
          refine followsUnless_oneDeeper lifts seen.scopes seen.nesting_lt ?_
          rw [outcome_lift, outcome_lift, lifts.inferCall_eq]
          exact followsUnless_refl _

end Infer

section Check

variable {env other : Env} {reach : Nat} {context otherContext : Option Record}
  {scope start : Scope}

theorem Part.check_follows (lifts : env.Lifts other) (whole : Expr) (part : Part)
    (inside : ∀ inner, part = .expr inner → inner.ChecksAlike env other reach)
    (seen : ∀ inner, part = .expr inner →
      inner.SeenAlike reach context otherContext scope start) :
    FollowsUnless (env.CutsOff other reach) (outcome (part.check env whole context) scope)
      (outcome (part.check other whole otherContext) start) := by
  cases part with
  | literal value =>
      rw [Part.check, Part.check, lifts.literalType]
      exact followsUnless_refl _
  | null =>
      rw [Part.check, Part.check]
      exact followsUnless_refl _
  | expr inner =>
      have here := seen inner rfl
      rw [Part.check, Part.check]
      refine (inside inner rfl _ _ _ _ here).outcome_bind (inner.check_restores env context)
        (inner.check_restores other otherContext) fun findings => ?_
      split
      · exact (inner.infersAlike lifts _ _ _ _ here).outcome_map _
      · exact followsUnless_refl _
  | operator op => exact followsUnless_refl _
  | segment name => exact followsUnless_refl _
  | method name => exact followsUnless_refl _

theorem checkSide_follows (lifts : env.Lifts other) (whole : List Part) (side : Option Part)
    (inside : ∀ inner, side = some (.expr inner) → inner.ChecksAlike env other reach)
    (seen : ∀ inner, side = some (.expr inner) →
      inner.SeenAlike reach context otherContext scope start) :
    FollowsUnless (env.CutsOff other reach) (outcome (checkSide env whole context side) scope)
      (outcome (checkSide other whole otherContext side) start) := by
  cases side with
  | none => exact followsUnless_refl _
  | some part =>
      apply part.check_follows lifts (.operator whole)
      · rintro inner rfl
        exact inside inner rfl
      · rintro inner rfl
        exact seen inner rfl

theorem checkOperands_restores {env : Env} {parts : List Part} {form : OperatorForm}
    (formed : OperatorForm.ofParts parts = .ok form) (context : Option Record) :
    Restores (checkOperands env parts context parts) := by
  have side (part : Option Part) : Restores (checkSide env parts context part) :=
    checkSide_restores env parts context part fun inner _ => inner.check_restores env context
  rw [checkOperands_eq env parts context parts form formed]
  exact restores_bind (side _) fun _ => restores_bind (side _) fun _ => restores_pure _

theorem checkOperands_follows (lifts : env.Lifts other) {parts : List Part} {form : OperatorForm}
    (formed : OperatorForm.ofParts parts = .ok form)
    (inside : ∀ inner, Part.expr inner ∈ parts → inner.ChecksAlike env other reach)
    (seen : ∀ inner, Part.expr inner ∈ parts →
      inner.SeenAlike reach context otherContext scope start) :
    FollowsUnless (env.CutsOff other reach)
      (outcome (checkOperands env parts context parts) scope)
      (outcome (checkOperands other parts otherContext parts) start) := by
  have whole := form.parts_eq parts formed
  have left := checkSide_follows lifts parts form.left
    (fun inner same => inside inner (by simp [whole, same]))
    (fun inner same => seen inner (by simp [whole, same]))
  have right := checkSide_follows lifts parts form.right
    (fun inner same => inside inner (by simp [whole, same]))
    (fun inner same => seen inner (by simp [whole, same]))
  rw [checkOperands_eq env parts context parts form formed,
    checkOperands_eq other parts otherContext parts form formed]
  refine left.outcome_bind (checkSide_restores env parts context form.left fun inner _ =>
    inner.check_restores env context) (checkSide_restores other parts otherContext form.left
    fun inner _ => inner.check_restores other otherContext) fun operand => ?_
  exact right.outcome_map _

theorem checkArguments_follows (lifts : env.Lifts other) (whole : Expr) (method : String)
    (arguments : List Part) (position : Nat) (parameters : List Parameter)
    (inside : ∀ inner, Part.expr inner ∈ arguments → inner.ChecksAlike env other reach)
    (seen : ∀ inner, Part.expr inner ∈ arguments →
      inner.SeenAlike reach context otherContext scope start) :
    FollowsUnless (env.CutsOff other reach)
      (outcome (checkArguments env whole method context position parameters arguments) scope)
      (outcome (checkArguments other whole method otherContext position parameters arguments)
        start) := by
  induction arguments generalizing position parameters with
  | nil =>
      rw [checkArguments, checkArguments]
      exact followsUnless_refl _
  | cons argument arguments ih =>
      cases parameters with
      | nil =>
          rw [checkArguments, checkArguments]
          exact followsUnless_refl _
      | cons parameter parameters =>
          have here := argument.check_follows lifts whole
            (fun inner same => inside inner (by simp [same]))
            (fun inner same => seen inner (by simp [same]))
          have later := ih (position + 1) parameters
            (fun inner member => inside inner (by simp [member]))
            (fun inner member => seen inner (by simp [member]))
          rw [checkArguments_cons, checkArguments_cons]
          refine here.outcome_bind (argument.check_restores env whole context fun inner _ =>
            inner.check_restores env context) (argument.check_restores other whole otherContext
            fun inner _ => inner.check_restores other otherContext) fun operand => ?_
          exact later.outcome_map _

theorem checkPath_follows_of_field {rest : List Part} {first : Bool} {name : String}
    (same : Referent.ofSegment name first context scope =
      Referent.ofSegment name first otherContext start)
    (behind : ∀ field, Referent.ofSegment name first context scope = .found field →
      Referent.ofSegment name first otherContext start = .found field →
      FollowsUnless (env.CutsOff other reach)
        (outcome (checkPath env first context (.segment name :: rest)) scope)
        (outcome (checkPath other first otherContext (.segment name :: rest)) start)) :
    FollowsUnless (env.CutsOff other reach)
      (outcome (checkPath env first context (.segment name :: rest)) scope)
      (outcome (checkPath other first otherContext (.segment name :: rest)) start) := by
  cases referent : Referent.ofSegment name first otherContext start with
  | found field => exact behind field (same.trans referent) referent
  | unmodeled =>
      rw [outcome_of_ok (checkPath_unmodeled (same.trans referent)),
        outcome_of_ok (checkPath_unmodeled referent)]
      exact followsUnless_refl _
  | missing schema =>
      rw [outcome_of_ok (checkPath_missing (same.trans referent)),
        outcome_of_ok (checkPath_missing referent)]
      exact followsUnless_refl _
  | noContext =>
      rw [outcome_of_ok (checkPath_noContext (same.trans referent)),
        outcome_of_ok (checkPath_noContext referent)]
      exact followsUnless_refl _

theorem checkPath_follows (parts : List Part)
    (brackets : ∀ bracket, Part.expr bracket ∈ parts → bracket.ChecksAlike env other reach)
    (first : Bool) (context otherContext : Option Record) (scope start : Scope)
    (seen : StepsSeenAlike parts reach first context otherContext scope start) :
    FollowsUnless (env.CutsOff other reach) (outcome (checkPath env first context parts) scope)
      (outcome (checkPath other first otherContext parts) start) := by
  induction parts using steps_induction
    generalizing first context otherContext scope start with
  | nil =>
      rw [checkPath_nil, checkPath_nil]
      exact followsUnless_refl _
  | last name =>
      refine checkPath_follows_of_field (seen.head name _ rfl) fun field found foundOther => ?_
      rw [outcome_of_ok (checkPath_last found), outcome_of_ok (checkPath_last foundOther)]
      exact followsUnless_refl _
  | lastBracket name bracket =>
      have inside := brackets bracket (by simp)
      refine checkPath_follows_of_field (seen.head name _ rfl) fun field found foundOther => ?_
      have entered := seen.inBracket found
      rw [outcome_eq (checkPath_lastBracket found), outcome_eq (checkPath_lastBracket foundOther)]
      exact (inside _ _ _ _ entered).outcome_map _
  | bracketed name bracket next rest ih =>
      have inside := brackets bracket (by simp)
      refine checkPath_follows_of_field (seen.head name _ rfl) fun field found foundOther => ?_
      have entered := seen.inBracket found
      cases shape : field.ty with
      | record schema =>
          rw [outcome_eq (checkPath_bracketed_record found shape),
            outcome_eq (checkPath_bracketed_record foundOther shape)]
          rw [shape] at entered ⊢
          refine (inside _ _ _ _ entered).outcome_bind (bracket.check_restores env _)
            (bracket.check_restores other _) fun findings => ?_
          apply FollowsUnless.outcome_map
          apply ih fun inner member => brackets inner (by simp [member])
          exact seen.intoRecord (by simp) schema
      | scalar cls =>
          rw [outcome_eq (checkPath_bracketed_scalar found shape),
            outcome_eq (checkPath_bracketed_scalar foundOther shape)]
          rw [shape] at entered ⊢
          exact (inside _ _ _ _ entered).outcome_map _
  | plain name next rest step ih =>
      refine checkPath_follows_of_field (seen.head name _ rfl) fun field found foundOther => ?_
      cases shape : field.ty with
      | record schema =>
          rw [outcome_eq (checkPath_plain_record step found shape),
            outcome_eq (checkPath_plain_record step foundOther shape), shape]
          apply ih fun inner member => brackets inner (by simp [member])
          exact seen.intoRecord (by simp) schema
      | scalar cls =>
          rw [outcome_of_ok (checkPath_plain_scalar step found shape),
            outcome_of_ok (checkPath_plain_scalar step foundOther shape)]
          exact followsUnless_refl _
  | other part rest step =>
      rw [outcome_of_ok (checkPath_other step), outcome_of_ok (checkPath_other step)]
      exact followsUnless_refl _

theorem path_check_follows {parts : List Part} (lifts : env.Lifts other)
    (alike : scope.Alike start) (room : scope.nesting < reach)
    (brackets : ∀ bracket, Part.expr bracket ∈ parts → bracket.ChecksAlike env other reach)
    (seen : StepsSeenAlike parts reach true context otherContext
      { scope with nesting := scope.nesting + 1 } { start with nesting := start.nesting + 1 }) :
    FollowsUnless (env.CutsOff other reach) (outcome ((Expr.path parts).check env context) scope)
      (outcome ((Expr.path parts).check other otherContext) start) := by
  rw [Expr.check, Expr.check]
  refine followsUnless_oneDeeper lifts alike room ?_
  rw [outcome_leaving, outcome_leaving]
  split
  · exact followsUnless_refl _
  · exact checkPath_follows parts brackets true context otherContext _ _ seen

theorem Expr.checksAlike (lifts : env.Lifts other) (expr : Expr) :
    expr.ChecksAlike env other reach := by
  induction expr using Expr.parts_induction with
  | step expr ih =>
      intro context otherContext scope start seen
      have inside (inner : Expr) (member : Part.expr inner ∈ expr.parts) := seen.inside member
      cases expr with
      | literal parts =>
          rw [Expr.check, Expr.check]
          exact followsUnless_oneDeeper lifts seen.scopes seen.nesting_lt (followsUnless_refl _)
      | operator parts =>
          rw [Expr.check, Expr.check]
          refine followsUnless_oneDeeper lifts seen.scopes seen.nesting_lt ?_
          refine followsUnless_lift_bind fun form formed => ?_
          split
          · exact followsUnless_refl _
          · refine (checkOperands_follows lifts formed ih inside).outcome_bind
              (checkOperands_restores formed context) (checkOperands_restores formed otherContext)
              fun sides => ?_
            dsimp only
            rw [lifts.sideFindings_eq]
            split
            · exact followsUnless_refl _
            · exact followsUnless_refl _
      | path parts => exact path_check_follows lifts seen.scopes seen.nesting_lt ih seen.steps
      | call parts =>
          rw [Expr.check, Expr.check]
          refine followsUnless_oneDeeper lifts seen.scopes seen.nesting_lt ?_
          refine followsUnless_lift_bind fun name _ => ?_
          rw [lifts.methods]
          split
          · exact followsUnless_refl _
          · cases parts with
            | nil => exact followsUnless_refl _
            | cons head arguments =>
                apply checkArguments_follows lifts
                · intro inner member
                  exact ih inner (by simp [Expr.parts, member])
                · intro inner member
                  exact inside inner (by simp [Expr.parts, member])

end Check

end TypedPath
