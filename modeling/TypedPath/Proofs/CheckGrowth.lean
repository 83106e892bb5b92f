import TypedPath.Proofs.CheckSound
import TypedPath.Proofs.OperandGrowth
import TypedPath.Query

/-! What a check has found nothing wrong with stays right when classes convert to each other that
did not before, and when the schema grows. -/

namespace TypedPath

open ScopeM

/-- Where a check of the expression finds nothing, it finds nothing in every grown scope and context
of the wider environment. -/
def Expr.CleanKept (env wider : Env) (expr : Expr) : Prop :=
  ∀ context grown scope grownScope after, Option.Rel Record.Grows context grown →
    scope.Grows grownScope → expr.check env context scope = .ok [] after →
    expr.check wider grown grownScope = .ok [] grownScope

structure Operand.Kept (old new : Operand) : Prop where
  findings : new.findings = []
  typing : OperandGrows old.typing new.typing

section Check

variable {env wider : Env} {context grown : Option Record} {scope grownScope after : Scope}

theorem Part.check_kept {whole : Expr} {operand : Operand} (part : Part)
    (widens : env.Widens wider) (contexts : Option.Rel Record.Grows context grown)
    (scopes : scope.Grows grownScope)
    (inside : ∀ inner, part = .expr inner → inner.CleanKept env wider)
    (checked : part.check env whole context scope = .ok operand after)
    (clean : operand.findings = []) :
    ∃ later, part.check wider whole grown grownScope = .ok later grownScope ∧
      operand.Kept later := by
  cases part with
  | null =>
      rw [Part.check] at checked ⊢
      obtain ⟨rfl, _⟩ := pure_eq_ok.mp checked
      exact ⟨_, rfl, rfl, .none⟩
  | literal value =>
      rw [Part.check] at checked ⊢
      obtain ⟨rfl, _⟩ := pure_eq_ok.mp checked
      rw [widens.literalType_eq]
      exact ⟨_, rfl, rfl, .some (Typing.grows_refl _)⟩
  | expr inner =>
      obtain ⟨checkedInner, typing, typed, inferred⟩ := Part.expr_of_quiet checked clean
      have checkedLater := inside inner rfl _ _ _ _ _ contexts scopes checkedInner
      obtain ⟨later, inferredLater, grows⟩ :=
        inner.typingKept env _ _ _ _ _ _ contexts scopes inferred
      -- growth is known of typing in one environment; in the wider one typing is the same
      rw [← inner.infer_congr widens.toAgrees] at inferredLater
      refine ⟨⟨[], some later⟩, ?_, rfl, ?_⟩
      · rw [Part.check, bind_run_of_ok _ checkedLater, if_pos List.isEmpty_nil,
          bind_run_of_ok _ inferredLater]
        rfl
      · rw [typed]
        exact .some grows
  | operator op => cases checked
  | segment name => cases checked
  | method name => cases checked

theorem checkSide_kept {whole : List Part} {operand : Operand} (side : Option Part)
    (widens : env.Widens wider) (contexts : Option.Rel Record.Grows context grown)
    (scopes : scope.Grows grownScope)
    (inside : ∀ inner, side = some (.expr inner) → inner.CleanKept env wider)
    (checked : checkSide env whole context side scope = .ok operand after)
    (clean : operand.findings = []) :
    ∃ later, checkSide wider whole grown side grownScope = .ok later grownScope ∧
      operand.Kept later := by
  cases side with
  | none =>
      obtain ⟨rfl, _⟩ := pure_eq_ok.mp checked
      exact ⟨_, rfl, rfl, .none⟩
  | some part =>
      exact part.check_kept widens contexts scopes
        (fun inner same => inside inner (by rw [same])) checked clean

theorem argumentFindings_kept {method : String} {position : Nat} {parameter : Parameter}
    {argument : Part} {typing later : Option Typing} (grows : OperandGrows typing later)
    (clean : argumentFindings method position parameter argument typing = []) :
    argumentFindings method position parameter argument later = [] := by
  cases grows with
  | none => rfl
  | some inner =>
      simp only [argumentFindings, ite_eq_left_iff, reduceCtorEq, imp_false, not_not] at clean ⊢
      rw [parameter.accepts_eq inner.ty]
      exact clean

theorem checkArguments_kept {whole : Expr} {method : String} (arguments : List Part)
    (widens : env.Widens wider) (contexts : Option.Rel Record.Grows context grown)
    (scopes : scope.Grows grownScope)
    (inside : ∀ inner, Part.expr inner ∈ arguments → inner.CleanKept env wider)
    (position : Nat) (parameters : List Parameter)
    (clean : checkArguments env whole method context position parameters arguments scope =
      .ok [] after) :
    ∃ last, checkArguments wider whole method grown position parameters arguments grownScope =
      .ok [] last := by
  induction arguments generalizing position parameters with
  | nil =>
      rw [checkArguments]
      exact ⟨_, rfl⟩
  | cons argument arguments ih =>
      cases parameters with
      | nil =>
          rw [checkArguments]
          exact ⟨_, rfl⟩
      | cons parameter parameters =>
          rw [checkArguments_cons] at clean ⊢
          obtain ⟨operand, middle, checked, clean⟩ := bind_eq_ok.mp clean
          obtain ⟨more, last, checkedMore, done⟩ := bind_eq_ok.mp clean
          obtain ⟨quiet, rfl⟩ := pure_eq_ok.mp done
          simp only [List.append_eq_nil_iff] at quiet
          obtain ⟨⟨noFindings, accepted⟩, rfl⟩ := quiet
          obtain rfl := (argument.check_restores env whole context fun inner _ =>
            inner.check_restores env context).after_eq checked
          obtain ⟨later, checkedLater, kept⟩ := argument.check_kept widens contexts scopes
            (fun inner same => inside inner (by simp [same])) checked noFindings
          obtain ⟨lastLater, moreLater⟩ := ih (fun inner member => inside inner (by simp [member]))
            (position + 1) parameters checkedMore
          rw [bind_run_of_ok _ checkedLater, bind_run_of_ok _ moreLater, kept.findings,
            argumentFindings_kept kept.typing accepted]
          exact ⟨_, rfl⟩

theorem Field.bracketFindings_kept {field later : Field} (grows : field.Grows later) :
    later.bracketFindings = field.bracketFindings := by
  rw [Field.bracketFindings, Field.bracketFindings, grows.isList_eq, grows.name_eq]

theorem checkPath_kept_of_field {rest : List Part} {first : Bool} {name : String}
    (contexts : Option.Rel Record.Grows context grown) (scopes : scope.Grows grownScope)
    (clean : checkPath env first context (.segment name :: rest) scope = .ok [] after)
    (behind : ∀ field later, Referent.ofSegment name first context scope = .found field →
      Referent.ofSegment name first grown grownScope = .found later → field.Grows later →
      ∃ last, checkPath wider first grown (.segment name :: rest) grownScope = .ok [] last) :
    ∃ last, checkPath wider first grown (.segment name :: rest) grownScope = .ok [] last := by
  have kept := Referent.ofSegment_kept contexts scopes name first
  rcases referent_of_clean clean with unknown | ⟨field, found⟩
  · rw [unknown] at kept
    exact ⟨_, checkPath_unmodeled kept.unmodeled_inv⟩
  · rw [found] at kept
    obtain ⟨later, foundLater, grows⟩ := kept.found_inv
    exact behind field later found foundLater grows

theorem checkPath_kept (parts : List Part)
    (brackets : ∀ bracket, Part.expr bracket ∈ parts → bracket.CleanKept env wider)
    (first : Bool) (contexts : Option.Rel Record.Grows context grown)
    (scopes : scope.Grows grownScope)
    (clean : checkPath env first context parts scope = .ok [] after) :
    ∃ last, checkPath wider first grown parts grownScope = .ok [] last := by
  induction parts using steps_induction
    generalizing first context grown scope grownScope after with
  | nil =>
      rw [checkPath_nil]
      exact ⟨_, rfl⟩
  | last name =>
      refine checkPath_kept_of_field contexts scopes clean ?_
      intro field later _ foundLater _
      exact ⟨_, checkPath_last foundLater⟩
  | lastBracket name bracket =>
      refine checkPath_kept_of_field contexts scopes clean ?_
      intro field later found foundLater grows
      rw [checkPath_lastBracket found] at clean
      obtain ⟨findings, middle, checked, done⟩ := bind_eq_ok.mp clean
      obtain ⟨quiet, rfl⟩ := pure_eq_ok.mp done
      obtain ⟨onList, rfl⟩ := List.append_eq_nil_iff.mp quiet
      have checkedLater := brackets bracket (by simp) _ _ _ _ _
        (grows.ty_grows.context_grows contexts) (scopes.enter grows.ty_grows) checked
      rw [checkPath_lastBracket foundLater, bind_run_of_ok _ checkedLater,
        Field.bracketFindings_kept grows, onList]
      exact ⟨_, rfl⟩
  | bracketed name bracket next rest ih =>
      refine checkPath_kept_of_field contexts scopes clean ?_
      intro field later found foundLater grows
      have entered := scopes.enter grows.ty_grows
      cases shape : field.ty with
      | record schema =>
          obtain ⟨schemaLater, shapeLater, schemaGrows⟩ := grows.record_grows shape
          rw [checkPath_bracketed_record found shape] at clean
          obtain ⟨findings, middle, checked, clean⟩ := bind_eq_ok.mp clean
          obtain ⟨more, last, checkedMore, done⟩ := bind_eq_ok.mp clean
          obtain ⟨quiet, rfl⟩ := pure_eq_ok.mp done
          simp only [List.append_eq_nil_iff] at quiet
          obtain ⟨⟨onList, rfl⟩, rfl⟩ := quiet
          obtain rfl := (bracket.check_restores env (some schema)).after_eq checked
          have checkedLater := brackets bracket (by simp) _ _ _ _ _ (.some schemaGrows) entered
            checked
          obtain ⟨lastLater, moreLater⟩ := ih
            (fun inner member => brackets inner (by simp [member])) false (.some schemaGrows)
            entered checkedMore
          rw [checkPath_bracketed_record foundLater shapeLater, bind_run_of_ok _ checkedLater,
            bind_run_of_ok _ moreLater, Field.bracketFindings_kept grows, onList]
          exact ⟨_, rfl⟩
      | scalar cls =>
          rw [checkPath_bracketed_scalar found shape] at clean
          obtain ⟨findings, middle, checked, done⟩ := bind_eq_ok.mp clean
          obtain ⟨quiet, rfl⟩ := pure_eq_ok.mp done
          simp only [List.append_eq_nil_iff] at quiet
          obtain ⟨⟨onList, rfl⟩, below⟩ := quiet
          have free : cls.isUnconstrained = true := by simpa using below
          have checkedLater := brackets bracket (by simp) _ _ _ _ _ contexts entered checked
          rw [checkPath_bracketed_scalar foundLater (grows.scalar_eq shape),
            bind_run_of_ok _ checkedLater, Field.bracketFindings_kept grows, onList, if_pos free]
          exact ⟨_, rfl⟩
  | plain name next rest step ih =>
      refine checkPath_kept_of_field contexts scopes clean ?_
      intro field later found foundLater grows
      cases shape : field.ty with
      | record schema =>
          obtain ⟨schemaLater, shapeLater, schemaGrows⟩ := grows.record_grows shape
          rw [checkPath_plain_record step found shape] at clean
          rw [checkPath_plain_record step foundLater shapeLater]
          exact ih (fun inner member => brackets inner (by simp [member])) false
            (.some schemaGrows) (scopes.enter grows.ty_grows) clean
      | scalar cls =>
          rw [checkPath_plain_scalar step found shape] at clean
          have free : cls.isUnconstrained = true ∧ scope = after := by simpa using clean
          rw [checkPath_plain_scalar step foundLater (grows.scalar_eq shape), if_pos free.1]
          exact ⟨_, rfl⟩
  | other part rest step =>
      rw [checkPath_other step] at clean
      cases clean

theorem check_kept_of_inside {expr : Expr} {body grownBody : ScopeM (List Finding)}
    (widens : env.Widens wider) (scopes : scope.Grows grownScope)
    (clean : expr.check env context scope = .ok [] after)
    (here : expr.check env context = oneDeeper env body)
    (there : expr.check wider grown = oneDeeper wider grownBody)
    (inside : ∀ inner, body { scope with nesting := scope.nesting + 1 } = .ok [] inner →
      ∃ last, grownBody { grownScope with nesting := grownScope.nesting + 1 } = .ok [] last) :
    expr.check wider grown grownScope = .ok [] grownScope := by
  rw [here] at clean
  obtain ⟨allowed, inner, clean⟩ := oneDeeper_eq_ok clean
  obtain ⟨last, run⟩ := inside inner clean
  obtain ⟨final, done⟩ := oneDeeper_of_ok (widens.mayOpen scopes allowed) run
  rw [← there] at done
  obtain rfl := (expr.check_restores wider grown).after_eq done
  exact done

end Check

section Operations

variable {env wider : Env} (widens : env.Widens wider) (parts : List Part)
include widens

theorem literal_cleanKept : (Expr.literal parts).CleanKept env wider := by
  intro context grown scope grownScope after contexts scopes clean
  refine check_kept_of_inside widens scopes clean (by rw [Expr.check]) (by rw [Expr.check]) ?_
  intro inner checked
  obtain ⟨quiet, _⟩ := pure_eq_ok.mp checked
  exact ⟨_, pure_eq_ok.mpr ⟨quiet, rfl⟩⟩

theorem operator_cleanKept
    (inside : ∀ inner, Part.expr inner ∈ parts → inner.CleanKept env wider) :
    (Expr.operator parts).CleanKept env wider := by
  intro context grown scope grownScope after contexts scopes clean
  obtain ⟨allowed, form, left, right, middle, last, formed, arity, checkedLeft, checkedRight,
    noLeft, noRight, quiet⟩ := operator_of_clean clean
  have whole := form.parts_eq parts formed
  have insideLeft (inner : Expr) (same : form.left = some (.expr inner)) :
      inner.CleanKept env wider := inside inner (by simp [whole, same])
  have insideRight (inner : Expr) (same : form.right = some (.expr inner)) :
      inner.CleanKept env wider := inside inner (by simp [whole, same])
  obtain rfl := (checkSide_restores env parts context form.left fun inner _ =>
    inner.check_restores env context).after_eq checkedLeft
  obtain ⟨grownLeft, checkedLeftLater, keptLeft⟩ :=
    checkSide_kept form.left widens contexts scopes.deeper insideLeft checkedLeft noLeft
  obtain ⟨grownRight, checkedRightLater, keptRight⟩ :=
    checkSide_kept form.right widens contexts scopes.deeper insideRight checkedRight noRight
  -- the rules of the operator are asked only where both operands have no findings of their own
  have quietLater := sideFindings_kept widens keptLeft.typing keptRight.typing quiet
  refine check_kept_of_inside widens scopes clean (by rw [Expr.check]) (by rw [Expr.check]) ?_
  intro inner checked
  have operands : checkOperands wider parts grown parts
      { grownScope with nesting := grownScope.nesting + 1 } =
      .ok (grownLeft, grownRight) { grownScope with nesting := grownScope.nesting + 1 } := by
    rw [checkOperands_eq wider parts grown parts form formed, bind_run_of_ok _ checkedLeftLater,
      bind_run_of_ok _ checkedRightLater]
    rfl
  rw [bind_run_of_ok _ (lift_eq_ok.mpr ⟨formed, rfl⟩)]
  simp only [arity]
  rw [bind_run_of_ok _ operands]
  simp only [keptLeft.findings, keptRight.findings, quietLater]
  exact ⟨_, rfl⟩

theorem path_cleanKept
    (brackets : ∀ bracket, Part.expr bracket ∈ parts → bracket.CleanKept env wider) :
    (Expr.path parts).CleanKept env wider := by
  intro context grown scope grownScope after contexts scopes clean
  refine check_kept_of_inside widens scopes clean (by rw [Expr.check]) (by rw [Expr.check]) ?_
  intro inner checked
  obtain ⟨last, checked⟩ := leaving_eq_ok checked
  split at checked
  · obtain ⟨quiet, _⟩ := pure_eq_ok.mp checked
    cases quiet
  · rename_i steps
    obtain ⟨last, checkedLater⟩ :=
      checkPath_kept parts brackets true contexts scopes.deeper checked
    rw [if_neg steps]
    exact leaving_of_ok checkedLater

theorem call_cleanKept
    (inside : ∀ inner, Part.expr inner ∈ parts → inner.CleanKept env wider) :
    (Expr.call parts).CleanKept env wider := by
  intro context grown scope grownScope after contexts scopes clean
  refine check_kept_of_inside widens scopes clean (by rw [Expr.check]) (by rw [Expr.check]) ?_
  intro inner checked
  obtain ⟨name, middle, lifted, checked⟩ := bind_eq_ok.mp checked
  obtain ⟨named, rfl⟩ := lift_eq_ok.mp lifted
  rw [bind_run_of_ok _ (lift_eq_ok.mpr ⟨named, rfl⟩), widens.methods]
  cases resolved : env.methods.resolve name (methodArguments parts).length with
  | error cause =>
      simp only [resolved] at checked
      obtain ⟨quiet, _⟩ := pure_eq_ok.mp checked
      cases quiet
  | ok signature =>
      simp only [resolved] at checked
      cases parts with
      | nil => exact ⟨_, rfl⟩
      | cons head arguments =>
          exact checkArguments_kept arguments widens contexts scopes.deeper
            (fun inner member => inside inner (by simp [member])) 0 signature.parameters checked

theorem Expr.cleanKept (expr : Expr) : expr.CleanKept env wider := by
  induction expr using Expr.parts_induction with
  | step expr ih =>
      cases expr with
      | literal parts => exact literal_cleanKept widens parts
      | operator parts => exact operator_cleanKept widens parts ih
      | path parts => exact path_cleanKept widens parts ih
      | call parts => exact call_cleanKept widens parts ih

end Operations

/-- An expression that is well typed against a schema is well typed against every schema that this
one grows into. What it gives is kept in the same way, and is of the same type in its grown form. -/
theorem grown_schema_keeps_valid (env : Env) (schema grown : Record) (grows : schema.Grows grown)
    (expr : Expr) (valid : expr.validate env (some schema) = .ok []) :
    expr.validate env (some grown) = .ok [] ∧
      ∃ typing later, expr.typing env (some schema) = .ok typing ∧
        expr.typing env (some grown) = .ok later ∧
        later.strategy = typing.strategy ∧ typing.ty.Grows later.ty := by
  obtain ⟨after, clean⟩ := Expr.validate_eq_nil.mp valid
  have contexts : Option.Rel Record.Grows (some schema) (some grown) := .some grows
  have scopes := Scope.Grows.start grows
  obtain ⟨typing, typed⟩ := (expr.typedWhenClean env).typing clean
  obtain ⟨later, typedLater, same⟩ := expr.typingKept env _ _ _ _ _ _ contexts scopes typed
  have cleanLater := expr.cleanKept env.widens_refl _ _ _ _ _ contexts scopes clean
  constructor
  · exact Expr.validate_eq_nil.mpr ⟨_, cleanLater⟩
  · exact ⟨typing, later, ScopeM.runFrom_eq_ok.mpr ⟨_, typed⟩,
      ScopeM.runFrom_eq_ok.mpr ⟨_, typedLater⟩, same.strategy, same.ty⟩

/-- The path `items[@size > 3]/size`, where no attribute of that name is declared. -/
def attributeSizes : Expr :=
  .path [.segment "items",
    .expr (.operator [.expr (.path [.segment "@size"]), .operator .greater, .literal (.integer 3)]),
    .segment "size"]

def grownOrderSchema : Record :=
  ⟨"Order", [⟨"items", .record ⟨"Item", [⟨"size", .scalar .integer, false, none⟩,
      ⟨"size", .scalar .string, false, none⟩], false⟩, true, none⟩,
    ⟨"note", .scalar .string, false, none⟩], false⟩

theorem orderSchema_grows : orderSchema.Grows grownOrderSchema := by
  have item : FieldsGrow [⟨"size", .scalar .integer, false, none⟩]
      [⟨"size", .scalar .integer, false, none⟩, ⟨"size", .scalar .string, false, none⟩] :=
    .kept (.intro _ _ _ (.scalar _)) (.added (by simp [unmark?, attributeMark]))
  exact .intro _ _ (.kept (.intro _ _ _ (.record (.intro _ _ item)))
    (.added (by simp [unmark?, attributeMark])))

theorem grown_schema_keeps_valid_attributeSizes :
    orderSchema.Grows grownOrderSchema ∧
      attributeSizes.validate .standard (some orderSchema) = .ok [] ∧
      attributeSizes.validate .standard (some grownOrderSchema) = .ok [] ∧
      ∃ typing later, attributeSizes.typing .standard (some orderSchema) = .ok typing ∧
        attributeSizes.typing .standard (some grownOrderSchema) = .ok later ∧
        later.strategy = typing.strategy ∧ typing.ty.Grows later.ty :=
  ⟨orderSchema_grows, rfl, grown_schema_keeps_valid _ _ _ orderSchema_grows _ rfl⟩

/-- The type of an expression does not depend on conversions, and what is well typed stays so with
more of them. -/
theorem wider_conversions_keep_valid (env wider : Env) (widens : env.Widens wider) (expr : Expr)
    (context : Option Record) (scope : Scope) :
    expr.infer wider context scope = expr.infer env context scope ∧
      ∀ after, expr.check env context scope = .ok [] after →
        expr.check wider context scope = .ok [] after := by
  constructor
  · rw [expr.infer_congr widens.toAgrees]
  · intro after clean
    obtain rfl := (expr.check_restores env context).after_eq clean
    exact expr.cleanKept widens _ _ _ _ _ (context_grows_refl context) (Scope.grows_refl _)
      clean

def lenient : Env := { Env.standard with converts := fun _ _ => true }

theorem wider_conversions_keep_valid_attributeSizes :
    Env.standard.Widens lenient ∧
      attributeSizes.check .standard (some orderSchema) (.start (some orderSchema)) =
        .ok [] (.start (some orderSchema)) ∧
      attributeSizes.infer lenient (some orderSchema) (.start (some orderSchema)) =
        attributeSizes.infer .standard (some orderSchema) (.start (some orderSchema)) ∧
      attributeSizes.check lenient (some orderSchema) (.start (some orderSchema)) =
        .ok [] (.start (some orderSchema)) := by
  have widens : Env.standard.Widens lenient := ⟨⟨rfl, rfl⟩, fun _ _ _ => rfl⟩
  obtain ⟨same, kept⟩ := wider_conversions_keep_valid .standard lenient widens attributeSizes
    (some orderSchema) (.start (some orderSchema))
  exact ⟨widens, rfl, same, kept _ rfl⟩

end TypedPath
