import TypedPath.Proofs.SchemaGrowth
import TypedPath.Proofs.ScopeKept

/-! What the type of an expression depends on. It is the same whatever classes convert to each
other, and in a schema that has grown it is the type it was, in its grown form. -/

namespace TypedPath

open ScopeM

structure Env.Agrees (env other : Env) : Prop where
  methods : other.methods = env.methods
  config : other.config = env.config

section Conversions

variable {env other : Env}

theorem Env.Agrees.literalType_eq (agrees : env.Agrees other) (literal : Literal) :
    other.literalType literal = env.literalType literal := by
  rw [Env.literalType, Env.literalType, agrees.config]

theorem Env.Agrees.oneDeeper_eq {α : Type} (agrees : env.Agrees other) (body : ScopeM α) :
    oneDeeper other body = oneDeeper env body := by
  funext scope
  simp only [oneDeeper, agrees.config]

theorem Env.Agrees.mayOpen (agrees : env.Agrees other) {scope grown : Scope}
    (scopes : scope.Grows grown) (allowed : MayOpen env scope) : MayOpen other grown := by
  unfold MayOpen at allowed ⊢
  rw [agrees.config, scopes.nesting]
  exact allowed

theorem inferLiteral_congr (agrees : env.Agrees other) (parts : List Part) :
    inferLiteral other parts = inferLiteral env parts := by
  unfold inferLiteral
  split
  · rw [agrees.literalType_eq]
  · rfl

theorem inferCall_congr (agrees : env.Agrees other) (parts : List Part) :
    inferCall other parts = inferCall env parts := by
  simp only [inferCall, resolveCall, agrees.methods]

theorem inferLeft_congr (agrees : env.Agrees other) (context : Option Record) (parts : List Part)
    (inside : ∀ inner, Part.expr inner ∈ parts →
      inner.infer other context = inner.infer env context) :
    inferLeft other context parts = inferLeft env context parts := by
  unfold inferLeft
  split
  · rw [inside _ List.mem_cons_self]
  · rw [agrees.literalType_eq]
  · rfl
  · rfl

theorem inferPath_congr (whole parts : List Part)
    (brackets : ∀ bracket, Part.expr bracket ∈ parts →
      ∀ context, bracket.infer other context = bracket.infer env context)
    (first : Bool) (context : Option Record) (strategy : Option Strategy) :
    inferPath other whole first context strategy parts =
      inferPath env whole first context strategy parts := by
  induction parts using steps_induction generalizing first context strategy with
  | nil => rw [inferPath, inferPath]
  | last name =>
      rw [inferPath_segment, inferPath_segment]
      rfl
  | lastBracket name bracket =>
      have inside := brackets bracket (by simp)
      rw [inferPath_segment, inferPath_segment]
      simp only [inferField, inside]
  | bracketed name bracket next rest ih =>
      have inside := brackets bracket (by simp)
      have later := ih fun inner member => brackets inner (by simp [member])
      rw [inferPath_segment, inferPath_segment]
      simp only [inferField, inside, later]
  | plain name next rest step ih =>
      have later := ih fun inner member => brackets inner (by simp [member])
      rw [inferPath_segment, inferPath_segment]
      simp only [inferField_plain step, later]
  | other part rest step =>
      funext scope
      rw [inferPath_other step, inferPath_other step]

/-- The type of an expression does not depend on conversions. -/
theorem Expr.infer_congr (agrees : env.Agrees other) (expr : Expr) (context : Option Record) :
    expr.infer other context = expr.infer env context := by
  induction expr using Expr.parts_induction generalizing context with
  | step expr ih =>
      cases expr with
      | literal parts =>
          rw [Expr.infer, Expr.infer, agrees.oneDeeper_eq, inferLiteral_congr agrees]
      | operator parts =>
          rw [Expr.infer_operator, Expr.infer_operator, agrees.oneDeeper_eq,
            inferLeft_congr agrees context parts fun inner member => ih inner member context]
      | path parts =>
          rw [Expr.infer, Expr.infer, agrees.oneDeeper_eq, inferPath_congr parts parts ih]
      | call parts =>
          rw [Expr.infer, Expr.infer, agrees.oneDeeper_eq, inferCall_congr agrees]

end Conversions

theorem Env.agrees_refl (env : Env) : env.Agrees env := ⟨rfl, rfl⟩

theorem strategyAfterBracket_grows {typing grown : Typing} (grows : typing.Grows grown)
    (bracket : Expr) (strategy : Option Strategy) :
    strategyAfterBracket bracket grown strategy = strategyAfterBracket bracket typing strategy := by
  have boolean : grown.ty.isBoolean = typing.ty.isBoolean := grows.ty.isBoolean_eq
  unfold strategyAfterBracket Expr.selects
  rw [boolean]

/-- Where the expression is typed, it is typed in every grown scope and context. -/
def Expr.TypingKept (env : Env) (expr : Expr) : Prop :=
  ∀ context grown scope grownScope typing after, Option.Rel Record.Grows context grown →
    scope.Grows grownScope → expr.infer env context scope = .ok typing after →
    ∃ later, expr.infer env grown grownScope = .ok later grownScope ∧ typing.Grows later

theorem infer_kept_of_inside {env : Env} {expr : Expr} {context grown : Option Record}
    {scope grownScope after : Scope} {typing : Typing} {body grownBody : ScopeM Typing}
    (scopes : scope.Grows grownScope) (typed : expr.infer env context scope = .ok typing after)
    (here : expr.infer env context = oneDeeper env body)
    (there : expr.infer env grown = oneDeeper env grownBody)
    (inside : ∀ inner, body { scope with nesting := scope.nesting + 1 } = .ok typing inner →
      ∃ later last, grownBody { grownScope with nesting := grownScope.nesting + 1 } =
        .ok later last ∧ typing.Grows later) :
    ∃ later, expr.infer env grown grownScope = .ok later grownScope ∧ typing.Grows later := by
  rw [here] at typed
  obtain ⟨allowed, inner, typed⟩ := oneDeeper_eq_ok typed
  obtain ⟨later, last, run, grows⟩ := inside inner typed
  obtain ⟨final, done⟩ := oneDeeper_of_ok (env.agrees_refl.mayOpen scopes allowed) run
  rw [← there] at done
  obtain rfl := (expr.infer_restores env grown).after_eq done
  exact ⟨later, done, grows⟩

theorem inferLeft_kept {env : Env} {context grown : Option Record} {scope grownScope after : Scope}
    {typing : Typing} (contexts : Option.Rel Record.Grows context grown)
    (scopes : scope.Grows grownScope) (parts : List Part)
    (inside : ∀ inner, Part.expr inner ∈ parts → inner.TypingKept env)
    (typed : inferLeft env context parts scope = .ok typing after) :
    ∃ later last, inferLeft env grown parts grownScope = .ok later last ∧ typing.Grows later := by
  unfold inferLeft at typed ⊢
  split at typed
  · rename_i left rest
    obtain ⟨found, middle, inferred, done⟩ := bind_eq_ok.mp typed
    obtain ⟨rfl, _⟩ := pure_eq_ok.mp done
    obtain ⟨later, inferredLater, grows⟩ :=
      inside left List.mem_cons_self _ _ _ _ _ _ contexts scopes inferred
    exact ⟨.single later.ty, _, bind_run_of_ok _ inferredLater, ⟨grows.ty, rfl⟩⟩
  · obtain ⟨rfl, _⟩ := pure_eq_ok.mp typed
    exact ⟨_, _, rfl, Typing.grows_refl _⟩
  · cases typed
  · cases typed

theorem inferPath_kept_of_field {env : Env} {whole rest : List Part} {first : Bool}
    {context grown : Option Record} {strategy : Option Strategy} {name : String}
    {scope grownScope after : Scope} {typing : Typing}
    (contexts : Option.Rel Record.Grows context grown) (scopes : scope.Grows grownScope)
    (typed : inferPath env whole first context strategy (.segment name :: rest) scope =
      .ok typing after)
    (behind : ∀ field later, Referent.ofSegment name first context scope = .found field →
      Referent.ofSegment name first grown grownScope = .found later → field.Grows later →
      ∃ later last, inferPath env whole first grown strategy (.segment name :: rest) grownScope =
        .ok later last ∧ typing.Grows later) :
    ∃ later last, inferPath env whole first grown strategy (.segment name :: rest) grownScope =
      .ok later last ∧ typing.Grows later := by
  have kept := Referent.ofSegment_kept contexts scopes name first
  rcases referent_of_typed typed with ⟨unknown, rfl⟩ | ⟨field, found⟩
  · rw [unknown] at kept
    exact ⟨_, _, inferPath_unmodeled kept.unmodeled_inv, Typing.grows_refl _⟩
  · rw [found] at kept
    obtain ⟨later, foundLater, grows⟩ := kept.found_inv
    exact behind field later found foundLater grows

theorem inferPath_kept (env : Env) (whole parts : List Part)
    (brackets : ∀ bracket, Part.expr bracket ∈ parts → bracket.TypingKept env)
    (first : Bool) (context grown : Option Record) (strategy : Option Strategy)
    (scope grownScope after : Scope) (typing : Typing)
    (contexts : Option.Rel Record.Grows context grown) (scopes : scope.Grows grownScope)
    (typed : inferPath env whole first context strategy parts scope = .ok typing after) :
    ∃ later last, inferPath env whole first grown strategy parts grownScope = .ok later last ∧
      typing.Grows later := by
  induction parts using steps_induction
    generalizing first context grown strategy scope grownScope with
  | nil => cases typed
  | last name =>
      refine inferPath_kept_of_field contexts scopes typed ?_
      intro field later found foundLater grows
      rw [inferPath_last found] at typed
      cases typed
      refine ⟨_, _, inferPath_last foundLater, grows.ty_grows, ?_⟩
      exact grows.strategyAfter_eq strategy
  | lastBracket name bracket =>
      refine inferPath_kept_of_field contexts scopes typed ?_
      intro field later found foundLater grows
      rw [inferPath_lastBracket found] at typed
      obtain ⟨inner, middle, typedBracket, done⟩ := bind_eq_ok.mp typed
      obtain ⟨rfl, _⟩ := pure_eq_ok.mp done
      obtain ⟨innerLater, typedLater, innerGrows⟩ := brackets bracket (by simp) _ _ _ _ _ _
        (grows.ty_grows.context_grows contexts) (scopes.enter grows.ty_grows) typedBracket
      rw [inferPath_lastBracket foundLater, bind_run_of_ok _ typedLater]
      refine ⟨_, _, rfl, grows.ty_grows, ?_⟩
      exact strategyAfterBracket_grows innerGrows bracket strategy
  | bracketed name bracket next rest ih =>
      refine inferPath_kept_of_field contexts scopes typed ?_
      intro field later found foundLater grows
      have entered := scopes.enter grows.ty_grows
      cases shape : field.ty with
      | record schema =>
          obtain ⟨schemaLater, shapeLater, schemaGrows⟩ := grows.record_grows shape
          rw [inferPath_bracketed_record found shape] at typed
          obtain ⟨inner, middle, typedBracket, typed⟩ := bind_eq_ok.mp typed
          -- the bracket leaves the scope as it was, so the rest is typed where the bracket was
          obtain rfl := (bracket.infer_restores env (some schema)).after_eq typedBracket
          obtain ⟨innerLater, typedLater, innerGrows⟩ := brackets bracket (by simp) _ _ _ _ _ _
            (.some schemaGrows) entered typedBracket
          rw [inferPath_bracketed_record foundLater shapeLater, bind_run_of_ok _ typedLater,
            strategyAfterBracket_grows innerGrows]
          exact ih (fun inner member => brackets inner (by simp [member])) _ _ _ _ _ _
            (.some schemaGrows) entered typed
      | scalar cls =>
          rw [inferPath_bracketed_scalar found shape] at typed
          obtain ⟨inner, middle, typedBracket, typed⟩ := bind_eq_ok.mp typed
          obtain ⟨innerLater, typedLater, innerGrows⟩ := brackets bracket (by simp) _ _ _ _ _ _
            contexts entered typedBracket
          rw [inferPath_bracketed_scalar foundLater (grows.scalar_eq shape),
            bind_run_of_ok _ typedLater, strategyAfterBracket_grows innerGrows]
          split at typed
          · rename_i free
            obtain ⟨rfl, _⟩ := pure_eq_ok.mp typed
            rw [if_pos free]
            exact ⟨_, _, rfl, Typing.grows_refl _⟩
          · cases typed
  | plain name next rest step ih =>
      refine inferPath_kept_of_field contexts scopes typed ?_
      intro field later found foundLater grows
      cases shape : field.ty with
      | record schema =>
          obtain ⟨schemaLater, shapeLater, schemaGrows⟩ := grows.record_grows shape
          rw [inferPath_plain_record step found shape] at typed
          rw [inferPath_plain_record step foundLater shapeLater, grows.isList_eq,
            grows.strategyAfter_eq]
          exact ih (fun inner member => brackets inner (by simp [member])) _ _ _ _ _ _
            (.some schemaGrows) (scopes.enter grows.ty_grows) typed
      | scalar cls =>
          rw [inferPath_plain_scalar step found shape] at typed
          rw [inferPath_plain_scalar step foundLater (grows.scalar_eq shape), grows.isList_eq,
            grows.strategyAfter_eq]
          split at typed
          · rename_i free
            cases typed
            rw [if_pos free]
            exact ⟨_, _, rfl, Typing.grows_refl _⟩
          · cases typed
  | other part rest step =>
      rw [inferPath_other step] at typed
      cases typed

theorem Expr.typingKept (env : Env) (expr : Expr) : expr.TypingKept env := by
  induction expr using Expr.parts_induction with
  | step expr ih =>
      intro context grown scope grownScope typing after contexts scopes typed
      cases expr with
      | literal parts =>
          refine infer_kept_of_inside scopes typed (by rw [Expr.infer]) (by rw [Expr.infer]) ?_
          intro inner inferred
          obtain ⟨same, _⟩ := lift_eq_ok.mp inferred
          exact ⟨typing, _, lift_eq_ok.mpr ⟨same, rfl⟩, typing.grows_refl⟩
      | operator parts =>
          refine infer_kept_of_inside scopes typed (Expr.infer_operator env context parts)
            (Expr.infer_operator env grown parts) ?_
          intro inner inferred
          obtain ⟨form, middle, lifted, inferred⟩ := bind_eq_ok.mp inferred
          obtain ⟨formed, rfl⟩ := lift_eq_ok.mp lifted
          rw [bind_run_of_ok _ (lift_eq_ok.mpr ⟨formed, rfl⟩)]
          split at inferred
          · rename_i arithmetic
            rw [if_pos arithmetic]
            exact inferLeft_kept contexts scopes.deeper parts ih inferred
          · rename_i other
            obtain ⟨rfl, _⟩ := pure_eq_ok.mp inferred
            rw [if_neg other]
            exact ⟨_, _, rfl, Typing.grows_refl _⟩
      | path parts =>
          refine infer_kept_of_inside scopes typed (by rw [Expr.infer]) (by rw [Expr.infer]) ?_
          intro inner inferred
          obtain ⟨last, inferred⟩ := leaving_eq_ok inferred
          obtain ⟨later, lastLater, run, grows⟩ := inferPath_kept env parts parts ih true context
            grown none _ _ _ _ contexts scopes.deeper inferred
          obtain ⟨final, done⟩ := leaving_of_ok run
          exact ⟨later, final, done, grows⟩
      | call parts =>
          refine infer_kept_of_inside scopes typed (by rw [Expr.infer]) (by rw [Expr.infer]) ?_
          intro inner inferred
          obtain ⟨same, _⟩ := lift_eq_ok.mp inferred
          exact ⟨typing, _, lift_eq_ok.mpr ⟨same, rfl⟩, typing.grows_refl⟩

end TypedPath
