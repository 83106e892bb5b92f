import TypedPath.Proofs.DepthLimit
import TypedPath.Proofs.Steps
import TypedPath.Proofs.WrappedLiterals

/-! Bare and wrapped literals are the same operands. Where nesting has no limit, an operation around
a literal operand makes no difference to the typing of an expression and to what a check finds in
it. So no question about two trees tells them apart that differ only in such operations. -/

namespace TypedPath

open ScopeM

theorem ScopeM.lift_map_bind {α β γ : Type} (result : Except Failure α) (make : α → β)
    (next : β → ScopeM γ) : lift (result.map make) >>= next = lift result >>= fun value =>
      next (make value) := by
  cases result <;> rfl

section Infer

variable {env : Env} {context : Option Record}

def Expr.InfersWrapped (env : Env) (expr : Expr) : Prop :=
  ∀ context, expr.wrapped.infer env context = expr.infer env context

theorem ScopeM.oneDeeper_lift (unlimited : env.config.maxDepth = none) {α : Type}
    (result : Except Failure α) : oneDeeper env (lift result) = lift result := by
  funext scope
  rw [oneDeeper_of_mayOpen _ (by simp [MayOpen, unlimited]), oneDeeper.run]
  cases result <;> rfl

theorem infer_single (unlimited : env.config.maxDepth = none) (value : Literal) :
    (Expr.literal [.literal value]).infer env context =
      pure (.single (env.literalType value)) := by
  rw [Expr.infer, oneDeeper_lift unlimited]
  rfl

theorem inferLiteral_wrapped (parts : List Part) :
    inferLiteral env (wrappedParts false parts) = inferLiteral env parts := by
  rcases single_or_several parts with ⟨value, bare, same⟩ | ⟨several, stillSeveral⟩
  · rw [same, bare]
  · rw [inferLiteral, inferLiteral, text_literal_wrapped]
    · exact several
    · exact stillSeveral

theorem inferCall_wrapped (parts : List Part) :
    inferCall env (wrappedParts true parts) = inferCall env parts := by
  simp only [inferCall, resolveCall, methodName_wrapped, methodArguments_wrapped,
    length_wrappedParts]

theorem inferLeft_wrapped (unlimited : env.config.maxDepth = none) (parts : List Part)
    (inside : ∀ inner, Part.expr inner ∈ parts → inner.InfersWrapped env) :
    inferLeft env context (wrappedParts true parts) = inferLeft env context parts := by
  have written := text_operator_wrapped parts
  cases parts with
  | nil => rfl
  | cons part rest =>
      cases part with
      | expr left =>
          have same := inside left List.mem_cons_self context
          simp only [wrappedParts_cons, Part.wrapped_expr, inferLeft, same]
      | literal value =>
          simp only [wrappedParts_cons, Part.wrapped_operand, inferLeft, infer_single unlimited,
            pure_bind]
          rfl
      | null | operator | segment | method =>
          simp only [wrappedParts_cons, Part.wrapped_null, Part.wrapped_operator,
            Part.wrapped_segment, Part.wrapped_method, inferLeft] at written ⊢
          rw [written]

theorem Expr.selects_wrapped (bracket : Expr) (typing : Typing) :
    bracket.wrapped.selects typing = bracket.selects typing := by
  cases bracket with
  | operator parts => exact (Expr.operator parts).isCondition_wrapped
  | literal | path | call => rfl

theorem strategyAfterBracket_wrapped (bracket : Expr) (typing : Typing)
    (strategy : Option Strategy) :
    strategyAfterBracket bracket.wrapped typing strategy =
      strategyAfterBracket bracket typing strategy := by
  rw [strategyAfterBracket, strategyAfterBracket, bracket.selects_wrapped]

theorem inferPath_eq_of_field {whole other rest behind : List Part} {first : Bool}
    {strategy : Option Strategy} {name : String}
    (same : ∀ field, inferField env other context strategy name field behind =
      inferField env whole context strategy name field rest) :
    inferPath env other first context strategy (.segment name :: behind) =
      inferPath env whole first context strategy (.segment name :: rest) := by
  simp only [inferPath_segment, same]

theorem inferPath_wrapped (whole parts : List Part)
    (brackets : ∀ bracket, Part.expr bracket ∈ parts → bracket.InfersWrapped env)
    (first : Bool) (context : Option Record) (strategy : Option Strategy) :
    inferPath env (wrappedParts false whole) first context strategy (wrappedParts false parts) =
      inferPath env whole first context strategy parts := by
  induction parts using steps_induction generalizing first context strategy with
  | nil => rw [wrappedParts_nil, inferPath, inferPath, text_path_wrapped]
  | last name => exact inferPath_eq_of_field fun field => rfl
  | lastBracket name bracket =>
      have inside := brackets bracket (by simp)
      refine inferPath_eq_of_field fun field => ?_
      simp only [wrappedParts_cons, wrappedParts_nil, Part.wrapped_expr, inferField, inside _,
        strategyAfterBracket_wrapped]
  | bracketed name bracket next rest ih =>
      have inside := brackets bracket (by simp)
      have later := ih fun inner member => brackets inner (by simp [member])
      refine inferPath_eq_of_field fun field => ?_
      rw [wrappedParts_cons] at later
      simp only [wrappedParts_cons, Part.wrapped_expr, inferField, inside _,
        strategyAfterBracket_wrapped, later]
  | plain name next rest step ih =>
      have later := ih fun inner member => brackets inner (by simp [member])
      refine inferPath_eq_of_field fun field => ?_
      rw [wrappedParts_cons] at later ⊢
      rw [inferField_plain step, inferField_plain (Part.wrapped_ne_expr step)]
      simp only [later]
  | other part rest step =>
      funext scope
      rw [wrappedParts_cons, inferPath_other step, inferPath_other (by simpa using step),
        Part.text_wrapped, text_path_wrapped]

theorem Expr.infer_wrapped (unlimited : env.config.maxDepth = none) (expr : Expr) :
    expr.InfersWrapped env := by
  induction expr using Expr.parts_induction with
  | step expr inside =>
      intro context
      cases expr with
      | literal parts => rw [Expr.wrapped, Expr.infer, Expr.infer, inferLiteral_wrapped]
      | operator parts =>
          rw [Expr.wrapped, Expr.infer_operator, Expr.infer_operator, OperatorForm.ofParts_wrapped,
            lift_map_bind, inferLeft_wrapped unlimited parts inside]
          rfl
      | path parts =>
          rw [Expr.wrapped, Expr.infer, Expr.infer, inferPath_wrapped parts parts inside]
      | call parts => rw [Expr.wrapped, Expr.infer, Expr.infer, inferCall_wrapped]

end Infer

section Check

variable {env : Env} {context : Option Record}

def Expr.ChecksWrapped (env : Env) (expr : Expr) : Prop :=
  ∀ context, expr.wrapped.check env context = expr.check env context

theorem check_single (unlimited : env.config.maxDepth = none) (value : Literal) :
    (Expr.literal [.literal value]).check env context = pure [] := by
  rw [Expr.check]
  exact oneDeeper_lift unlimited (.ok [])

theorem literalFindings_wrapped (parts : List Part) :
    literalFindings (wrappedParts false parts) = literalFindings parts := by
  rcases single_or_several parts with ⟨value, bare, same⟩ | ⟨several, stillSeveral⟩
  · rw [same, bare]
  · rw [literalFindings, literalFindings, text_literal_wrapped]
    · exact several
    · exact stillSeveral

theorem Part.check_wrapped (unlimited : env.config.maxDepth = none) {whole other : Expr}
    (written : other.text = whole.text) (context : Option Record) (part : Part)
    (inside : ∀ inner, part = .expr inner → inner.ChecksWrapped env) :
    (part.wrapped true).check env other context = part.check env whole context := by
  cases part with
  | literal value =>
      -- A bare literal is typed on the spot. The operation opens a level for it, which only a
      -- limit could refuse.
      rw [Part.wrapped_operand, Part.check, Part.check, check_single unlimited,
        infer_single unlimited]
      rfl
  | null => rfl
  | expr inner =>
      rw [Part.wrapped_expr, Part.check, Part.check, inside inner rfl,
        inner.infer_wrapped unlimited]
  | operator | segment | method =>
      simp only [Part.wrapped_operator, Part.wrapped_segment, Part.wrapped_method, Part.check,
        written]

theorem checkSide_wrapped (unlimited : env.config.maxDepth = none) (whole : List Part)
    (context : Option Record) (side : Option Part)
    (inside : ∀ inner, side = some (.expr inner) → inner.ChecksWrapped env) :
    checkSide env (wrappedParts true whole) context (side.map (Part.wrapped true)) =
      checkSide env whole context side := by
  cases side with
  | none => rfl
  | some part =>
      apply part.check_wrapped unlimited (text_operator_wrapped whole) context
      rintro inner rfl
      exact inside inner rfl

theorem OperatorForm.arityFinding_wrapped (form : OperatorForm) :
    form.wrapped.arityFinding? = form.arityFinding? := by
  simp only [OperatorForm.arityFinding?, OperatorForm.wrapped, Option.isNone_map,
    Option.isSome_map]

theorem checkOperands_wrapped (unlimited : env.config.maxDepth = none) {parts : List Part}
    {form : OperatorForm} (formed : OperatorForm.ofParts parts = .ok form)
    (context : Option Record)
    (inside : ∀ inner, Part.expr inner ∈ parts → inner.ChecksWrapped env) :
    checkOperands env (wrappedParts true parts) context (wrappedParts true parts) =
      checkOperands env parts context parts := by
  have formedWrapped : OperatorForm.ofParts (wrappedParts true parts) = .ok form.wrapped := by
    rw [OperatorForm.ofParts_wrapped, formed]
    rfl
  have whole := form.parts_eq parts formed
  have left := checkSide_wrapped unlimited parts context form.left fun inner same =>
    inside inner (by simp [whole, same])
  have right := checkSide_wrapped unlimited parts context form.right fun inner same =>
    inside inner (by simp [whole, same])
  rw [checkOperands_eq env _ context _ _ formedWrapped, checkOperands_eq env _ context _ _ formed,
    OperatorForm.wrapped, left, right]

theorem argumentFindings_wrapped (method : String) (position : Nat) (parameter : Parameter)
    (argument : Part) (typing : Option Typing) :
    argumentFindings method position parameter (argument.wrapped true) typing =
      argumentFindings method position parameter argument typing := by
  cases typing with
  | none => rfl
  | some typing => rw [argumentFindings, argumentFindings, Part.text_wrapped]

theorem checkArguments_wrapped (unlimited : env.config.maxDepth = none) {whole other : Expr}
    (written : other.text = whole.text) (method : String) (context : Option Record)
    (arguments : List Part) (position : Nat) (parameters : List Parameter)
    (inside : ∀ inner, Part.expr inner ∈ arguments → inner.ChecksWrapped env) :
    checkArguments env other method context position parameters (wrappedParts true arguments) =
      checkArguments env whole method context position parameters arguments := by
  induction arguments generalizing position parameters with
  | nil => rw [wrappedParts_nil, checkArguments, checkArguments]
  | cons argument arguments ih =>
      cases parameters with
      | nil => rw [wrappedParts_cons, checkArguments, checkArguments]
      | cons parameter parameters =>
          have here := argument.check_wrapped unlimited written context fun inner same =>
            inside inner (by simp [same])
          have later := ih (position + 1) parameters
            fun inner member => inside inner (by simp [member])
          simp only [wrappedParts_cons, checkArguments_cons, here, later, argumentFindings_wrapped]

theorem checkPath_eq_of_field {rest behind : List Part} {first : Bool} {name : String}
    (same : ∀ field, checkField env context field behind = checkField env context field rest) :
    checkPath env first context (.segment name :: behind) =
      checkPath env first context (.segment name :: rest) := by
  simp only [checkPath_segment, same]

theorem checkPath_wrapped (parts : List Part)
    (brackets : ∀ bracket, Part.expr bracket ∈ parts → bracket.ChecksWrapped env)
    (first : Bool) (context : Option Record) :
    checkPath env first context (wrappedParts false parts) = checkPath env first context parts := by
  induction parts using steps_induction generalizing first context with
  | nil => rfl
  | last name => rfl
  | lastBracket name bracket =>
      have inside := brackets bracket (by simp)
      refine checkPath_eq_of_field fun field => ?_
      simp only [wrappedParts_cons, wrappedParts_nil, Part.wrapped_expr, checkField, inside _]
  | bracketed name bracket next rest ih =>
      have inside := brackets bracket (by simp)
      have later := ih fun inner member => brackets inner (by simp [member])
      refine checkPath_eq_of_field fun field => ?_
      rw [wrappedParts_cons] at later
      obtain ⟨title, ty, isList, declared⟩ := field
      cases ty with
      | record schema | scalar cls =>
          simp only [wrappedParts_cons, Part.wrapped_expr, checkField, inside _, later]
  | plain name next rest step ih =>
      have later := ih fun inner member => brackets inner (by simp [member])
      refine checkPath_eq_of_field fun field => ?_
      rw [wrappedParts_cons] at later ⊢
      rw [checkField_plain step, checkField_plain (Part.wrapped_ne_expr step)]
      simp only [later]
  | other part rest step =>
      funext scope
      rw [wrappedParts_cons, checkPath_other step, checkPath_other (by simpa using step),
        Part.text_wrapped]

theorem Expr.check_wrapped (unlimited : env.config.maxDepth = none) (expr : Expr) :
    expr.ChecksWrapped env := by
  induction expr using Expr.parts_induction with
  | step expr inside =>
      intro context
      cases expr with
      | literal parts => rw [Expr.wrapped, Expr.check, Expr.check, literalFindings_wrapped]
      | operator parts =>
          rw [Expr.wrapped, Expr.check, Expr.check, OperatorForm.ofParts_wrapped, lift_map_bind]
          cases formed : OperatorForm.ofParts parts with
          | error failure => rfl
          | ok form =>
              have sides := checkOperands_wrapped unlimited formed context inside
              simp only [OperatorForm.arityFinding_wrapped, sides]
              rfl
      | path parts =>
          rw [Expr.wrapped, Expr.check, Expr.check, checkPath_wrapped parts inside,
            wrappedParts_eq_map, List.isEmpty_map]
      | call parts =>
          have written := text_call_wrapped parts
          rw [Expr.wrapped, Expr.check, Expr.check, methodName_wrapped, methodArguments_wrapped,
            length_wrappedParts]
          cases parts with
          | nil => rfl
          | cons head arguments =>
              have given (name : String) (parameters : List Parameter) :=
                checkArguments_wrapped unlimited written name context arguments 0 parameters
                  fun inner member => inside inner (List.mem_cons_of_mem _ member)
              simp only [wrappedParts_cons] at given ⊢
              simp only [given]

end Check

/-- No question about the two expressions tells them apart. -/
structure Expr.Indistinct (env : Env) (expr other : Expr) : Prop where
  text : expr.text = other.text
  typing : ∀ schema, expr.typing env schema = other.typing env schema
  validate : ∀ schema, expr.validate env schema = other.validate env schema
  evaluate : ∀ content, expr.evaluate env content = other.evaluate env content
  storagePath : ∀ content, expr.storagePath env content = other.storagePath env content

theorem Expr.indistinct_of_wrapped {env : Env} (unlimited : env.config.maxDepth = none)
    {expr other : Expr} (same : expr.wrapped = other.wrapped) : expr.Indistinct env other where
  text := by rw [← expr.text_wrapped, same, other.text_wrapped]
  typing schema := by
    rw [Expr.typing, Expr.typing, ← expr.infer_wrapped unlimited, same,
      other.infer_wrapped unlimited]
  validate schema := by
    rw [Expr.validate, Expr.validate, Expr.findings, Expr.findings,
      ← expr.check_wrapped unlimited, same, other.check_wrapped unlimited]
  evaluate content := by
    rw [Expr.evaluate, Expr.evaluate, ← expr.eval_wrapped env, same, other.eval_wrapped env]
  storagePath content := by
    rw [← expr.storagePath_wrapped, same, other.storagePath_wrapped]

def ExprKind.takesOperands : ExprKind → Bool
  | .operator | .call => true
  | .literal | .path => false

mutual

/-- In the second tree some bare literals that are operands or arguments in the first one stand in
operations of their own, at any depth. -/
inductive Tree.WrapsTo : Tree → Tree → Prop
  | same (tree : Tree) : tree.WrapsTo tree
  | operation {kind : ExprKind} {children others : List Tree} :
      ChildrenWrapTo kind children others →
      (Tree.operation kind children).WrapsTo (.operation kind others)

inductive ChildrenWrapTo : ExprKind → List Tree → List Tree → Prop
  | nil {kind : ExprKind} : ChildrenWrapTo kind [] []
  | kept {kind : ExprKind} {child other : Tree} {children others : List Tree} :
      child.WrapsTo other → ChildrenWrapTo kind children others →
      ChildrenWrapTo kind (child :: children) (other :: others)
  | wrapped {kind : ExprKind} (value : Literal) {children others : List Tree} :
      kind.takesOperands = true → ChildrenWrapTo kind children others →
      ChildrenWrapTo kind (.literal value :: children) (.value value :: others)

end

def Tree.toChild (inPath : Bool) : Tree → Part
  | .literal value => if inPath then .expr (.literal [.literal value]) else .literal value
  | tree => tree.toPart

theorem toParts_cons (inPath : Bool) (child : Tree) (children : List Tree) :
    toParts inPath (child :: children) = child.toChild inPath :: toParts inPath children := by
  cases child with
  | literal | null | operator | segment | method | operation => rfl

theorem Tree.WrapsTo.toChild_eq {operand : Bool} {tree other : Tree} (wraps : tree.WrapsTo other)
    (parts : tree.toPart.wrapped operand = other.toPart.wrapped operand) (inPath : Bool) :
    (tree.toChild inPath).wrapped operand = (other.toChild inPath).wrapped operand := by
  cases wraps with
  | same => rfl
  | operation => exact parts

theorem Expr.wrapped_ofKind (kind : ExprKind) (parts : List Part) :
    (Expr.ofKind kind parts).wrapped = .ofKind kind (wrappedParts kind.takesOperands parts) := by
  cases kind <;> rfl

mutual

theorem Tree.WrapsTo.toPart_eq (operand : Bool) : (tree : Tree) → {other : Tree} →
    tree.WrapsTo other → tree.toPart.wrapped operand = other.toPart.wrapped operand
  | _, _, .same _ => rfl
  | .operation kind children, _, .operation wraps => by
      rw [Tree.toPart, Tree.toPart, Part.wrapped_expr, Part.wrapped_expr, Expr.wrapped_ofKind,
        Expr.wrapped_ofKind, ChildrenWrapTo.toParts_eq kind children wraps]

theorem ChildrenWrapTo.toParts_eq (kind : ExprKind) : (children : List Tree) →
    {others : List Tree} → ChildrenWrapTo kind children others →
    wrappedParts kind.takesOperands (toParts (kind == .path) children) =
      wrappedParts kind.takesOperands (toParts (kind == .path) others)
  | [], _, .nil => rfl
  | child :: children, _, .kept here later => by
      have part := here.toChild_eq (Tree.WrapsTo.toPart_eq kind.takesOperands child here)
      rw [toParts_cons, toParts_cons, wrappedParts_cons, wrappedParts_cons, part,
        ChildrenWrapTo.toParts_eq kind children later]
  | .literal value :: children, _, .wrapped _ takes later => by
      have parts := ChildrenWrapTo.toParts_eq kind children later
      rw [toParts_cons, toParts_cons, wrappedParts_cons, wrappedParts_cons, parts]
      -- Only operators and calls have operands, and in both the literal becomes its operation.
      cases kind with
      | operator | call => rfl
      | literal | path => cases takes

end

/-- Where nesting has no limit, bare literals and literal operations are the same operands. From a
tree with an operation at its root and the tree with operations around any of its literal operands
and arguments, expressions are built that no question tells apart. -/
theorem wrapped_literals_indistinct (env : Env) (unlimited : env.config.maxDepth = none)
    (kind : ExprKind) (children : List Tree) (other : Tree)
    (wraps : (Tree.operation kind children).WrapsTo other) :
    ∃ bare wrapped, (Tree.operation kind children).toExpr = .ok bare ∧
      other.toExpr = .ok wrapped ∧ bare.Indistinct env wrapped := by
  have parts := wraps.toPart_eq false
  cases wraps with
  | same => exact ⟨_, _, rfl, rfl, Expr.indistinct_of_wrapped unlimited rfl⟩
  | operation inside =>
      exact ⟨_, _, rfl, rfl, Expr.indistinct_of_wrapped unlimited (Part.expr.inj parts)⟩

/-- The labels of crates by twice their weight, where the two numbers stand as they are given:
`crates[weight * 2 > 5]/label`. -/
def labelsByWeight (factor limit : Tree) : List Tree :=
  [.segment "crates",
    .operation .operator
      [.operation .operator [.path ["weight"], .operator .multiply, factor], .operator .greater,
        limit],
    .segment "label"]

def crates : Content :=
  .map [("crates", .array [.object [("weight", .integer 2), ("label", .string "cork")],
    .object [("weight", .integer 3), ("label", .string "iron")]])]

theorem wrapped_literals_indistinct_labelsByWeight :
    (Tree.operation .path (labelsByWeight (.literal (.integer 2)) (.literal (.integer 5)))).WrapsTo
        (.operation .path (labelsByWeight (.value (.integer 2)) (.literal (.integer 5)))) ∧
      ∃ expr, (Tree.operation .path
          (labelsByWeight (.value (.integer 2)) (.literal (.integer 5)))).toExpr = .ok expr ∧
        expr.text = "crates[weight * 2 > 5]/label" ∧
        expr.evaluate (Env.standard.withLimit none) crates = .ok (.array [.string "iron"]) := by
  have wraps : (Tree.operation .path
      (labelsByWeight (.literal (.integer 2)) (.literal (.integer 5)))).WrapsTo
      (.operation .path (labelsByWeight (.value (.integer 2)) (.literal (.integer 5)))) := by
    have product : (Tree.operation .operator
        [.path ["weight"], .operator .multiply, .literal (.integer 2)]).WrapsTo
        (.operation .operator [.path ["weight"], .operator .multiply, .value (.integer 2)]) :=
      .operation (.kept (.same _) (.kept (.same _) (.wrapped _ rfl .nil)))
    exact .operation (.kept (.same _) (.kept
      (.operation (.kept product (.kept (.same _) (.kept (.same _) .nil)))) (.kept (.same _) .nil)))
  obtain ⟨bare, wrapped, built, builtWrapped, alike⟩ :=
    wrapped_literals_indistinct (Env.standard.withLimit none) rfl .path _ _ wraps
  cases built
  exact ⟨wraps, wrapped, builtWrapped, alike.text.symm, (alike.evaluate crates).symm⟩

end TypedPath
