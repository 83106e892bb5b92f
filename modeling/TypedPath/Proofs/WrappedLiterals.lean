import TypedPath.Proofs.OperatorEval
import TypedPath.Proofs.StoredIndexes

/-! Literal operands, bare and in operations of their own. Around every bare literal that is an
operand or an argument an operation can be put, at all depths. The expression is written as before,
has the same form and the same value, and its storage paths are the same. -/

namespace TypedPath

mutual

/-- The expression with an operation around each bare literal that is an operand or an argument. -/
def Expr.wrapped : Expr → Expr
  | .literal parts => .literal (wrappedParts false parts)
  | .operator parts => .operator (wrappedParts true parts)
  | .path parts => .path (wrappedParts false parts)
  | .call parts => .call (wrappedParts true parts)

def Part.wrapped (operand : Bool) : Part → Part
  | .literal value => if operand then .expr (.literal [.literal value]) else .literal value
  | .expr expr => .expr expr.wrapped
  | other => other

def wrappedParts (operand : Bool) : List Part → List Part
  | [] => []
  | part :: parts => part.wrapped operand :: wrappedParts operand parts

end

section Unfolding

variable (operand : Bool)

@[simp] theorem wrappedParts_nil : wrappedParts operand [] = [] := rfl

@[simp] theorem wrappedParts_cons (part : Part) (parts : List Part) :
    wrappedParts operand (part :: parts) = part.wrapped operand :: wrappedParts operand parts := rfl

@[simp] theorem Part.wrapped_null : Part.null.wrapped operand = .null := rfl

@[simp] theorem Part.wrapped_operator (op : Operator) :
    (Part.operator op).wrapped operand = .operator op := rfl

@[simp] theorem Part.wrapped_segment (name : String) :
    (Part.segment name).wrapped operand = .segment name := rfl

@[simp] theorem Part.wrapped_method (name : String) :
    (Part.method name).wrapped operand = .method name := rfl

@[simp] theorem Part.wrapped_expr (expr : Expr) :
    (Part.expr expr).wrapped operand = .expr expr.wrapped := rfl

@[simp] theorem Part.wrapped_operand (value : Literal) :
    (Part.literal value).wrapped true = .expr (.literal [.literal value]) := rfl

@[simp] theorem Part.wrapped_bare (value : Literal) :
    (Part.literal value).wrapped false = .literal value := rfl

theorem wrappedParts_eq_map (parts : List Part) :
    wrappedParts operand parts = parts.map (Part.wrapped operand) := by
  induction parts with
  | nil => rfl
  | cons part parts ih => rw [wrappedParts_cons, ih, List.map_cons]

@[simp] theorem Part.wrapped_eq_operator (part : Part) (op : Operator) :
    part.wrapped operand = .operator op ↔ part = .operator op := by
  cases part with
  | literal value => cases operand <;> simp
  | null | operator | segment | method | expr => simp

@[simp] theorem Part.wrapped_eq_segment (part : Part) (name : String) :
    part.wrapped operand = .segment name ↔ part = .segment name := by
  cases part with
  | literal value => cases operand <;> simp
  | null | operator | segment | method | expr => simp

@[simp] theorem Part.wrapped_eq_method (part : Part) (name : String) :
    part.wrapped operand = .method name ↔ part = .method name := by
  cases part with
  | literal value => cases operand <;> simp
  | null | operator | segment | method | expr => simp

@[simp] theorem Part.wrapped_eq_literal (part : Part) (value : Literal) :
    part.wrapped false = .literal value ↔ part = .literal value := by
  cases part <;> simp

theorem wrappedParts_eq_single (parts : List Part) (value : Literal) :
    wrappedParts false parts = [.literal value] ↔ parts = [.literal value] := by
  match parts with
  | [] => simp
  | [part] => simp
  | part :: next :: rest => simp

theorem single_or_several (parts : List Part) :
    (∃ value, parts = [.literal value] ∧ wrappedParts false parts = [.literal value]) ∨
      (∀ value, parts ≠ [.literal value]) ∧
        ∀ value, wrappedParts false parts ≠ [.literal value] := by
  by_cases single : ∃ value, parts = [.literal value]
  · obtain ⟨value, rfl⟩ := single
    exact .inl ⟨value, rfl, rfl⟩
  · have several : ∀ value, parts ≠ [.literal value] := not_exists.mp single
    exact .inr ⟨several, by simpa [wrappedParts_eq_single] using several⟩

theorem operator_of_wrappedParts {parts after : List Part} {op : Operator}
    (first : wrappedParts operand parts = .operator op :: after) :
    ∃ rest, parts = .operator op :: rest := by
  cases parts with
  | nil => cases first
  | cons part rest =>
      rw [wrappedParts_cons, List.cons.injEq, Part.wrapped_eq_operator] at first
      exact ⟨rest, by rw [first.1]⟩

theorem Part.wrapped_ne_expr {part : Part} (other : ∀ expr, part ≠ .expr expr) (expr : Expr) :
    part.wrapped false ≠ .expr expr := by
  cases part with
  | expr found => exact absurd rfl (other found)
  | literal | null | operator | segment | method => simp

end Unfolding

mutual

theorem Expr.text_wrapped : (expr : Expr) → expr.wrapped.text = expr.text
  | .literal parts => by rw [Expr.wrapped, Expr.text, Expr.text, partTexts_wrapped false parts]
  | .operator parts => by rw [Expr.wrapped, Expr.text, Expr.text, partTexts_wrapped true parts]
  | .path parts => by rw [Expr.wrapped, Expr.text, Expr.text, pathText_wrapped true parts]
  | .call [] => rfl
  | .call (name :: arguments) => by
      rw [Expr.wrapped, wrappedParts_cons, Expr.text, Expr.text, Part.text_wrapped true name,
        partTexts_wrapped true arguments]

theorem Part.text_wrapped (operand : Bool) : (part : Part) →
    (part.wrapped operand).text = part.text
  | .literal value => by cases operand <;> rfl
  | .null | .operator _ | .segment _ | .method _ => rfl
  | .expr expr => by rw [Part.wrapped_expr, Part.text, Part.text, Expr.text_wrapped expr]

theorem partTexts_wrapped (operand : Bool) : (parts : List Part) →
    partTexts (wrappedParts operand parts) = partTexts parts
  | [] => rfl
  | part :: parts => by
      rw [wrappedParts_cons, partTexts, partTexts, Part.text_wrapped operand part,
        partTexts_wrapped operand parts]

theorem pathText_wrapped (first : Bool) : (parts : List Part) →
    pathText first (wrappedParts false parts) = pathText first parts
  | [] => rfl
  | .expr expr :: rest => by
      rw [wrappedParts_cons, Part.wrapped_expr, pathText, pathText, Expr.text_wrapped expr,
        pathText_wrapped false rest]
  | .literal _ :: rest | .null :: rest | .operator _ :: rest | .segment _ :: rest
  | .method _ :: rest => by
      simp [pathText, Part.text, pathText_wrapped false rest]

end

section Texts

-- Errors quote the operation they are about. In them the text stands under the operation's
-- constructor, where `Expr.text_wrapped` does not apply.
variable (parts : List Part)

theorem text_literal_wrapped :
    (Expr.literal (wrappedParts false parts)).text = (Expr.literal parts).text :=
  (Expr.literal parts).text_wrapped

theorem text_operator_wrapped :
    (Expr.operator (wrappedParts true parts)).text = (Expr.operator parts).text :=
  (Expr.operator parts).text_wrapped

theorem text_path_wrapped :
    (Expr.path (wrappedParts false parts)).text = (Expr.path parts).text :=
  (Expr.path parts).text_wrapped

theorem text_call_wrapped :
    (Expr.call (wrappedParts true parts)).text = (Expr.call parts).text :=
  (Expr.call parts).text_wrapped

end Texts

section Form

theorem firstOperator_wrapped (operand : Bool) (parts : List Part) :
    firstOperator? (wrappedParts operand parts) = firstOperator? parts := by
  induction parts with
  | nil => rfl
  | cons part parts ih =>
      cases part with
      | literal value => cases operand <;> exact ih
      | operator op => rfl
      | null | segment | method | expr => exact ih

theorem Expr.isCondition_wrapped (expr : Expr) : expr.wrapped.isCondition = expr.isCondition := by
  cases expr with
  | literal parts =>
      match parts with
      | [] => rfl
      | [part] => cases part <;> rfl
      | part :: next :: rest =>
          cases part with
          | literal value => cases value <;> rfl
          | null | operator | segment | method | expr => rfl
  | operator parts =>
      rw [Expr.wrapped, Expr.isCondition, firstOperator_wrapped]
      rfl
  | path | call => rfl

theorem splitAtOperator_wrapped (parts : List Part) :
    splitAtOperator (wrappedParts true parts) =
      (splitAtOperator parts).map fun sides =>
        (wrappedParts true sides.1, sides.2.1, wrappedParts true sides.2.2) := by
  induction parts with
  | nil => rfl
  | cons part parts ih =>
      cases part with
      | operator op => rfl
      | literal | null | segment | method | expr =>
          simp only [wrappedParts_cons, Part.wrapped_operand, Part.wrapped_null,
            Part.wrapped_segment, Part.wrapped_method, Part.wrapped_expr, splitAtOperator, ih]
          cases splitAtOperator parts <;> rfl

def OperatorForm.wrapped (form : OperatorForm) : OperatorForm :=
  ⟨form.operator, form.left.map (Part.wrapped true), form.right.map (Part.wrapped true)⟩

theorem OperatorForm.ofParts_wrapped (parts : List Part) :
    OperatorForm.ofParts (wrappedParts true parts) =
      (OperatorForm.ofParts parts).map OperatorForm.wrapped := by
  unfold OperatorForm.ofParts
  rw [splitAtOperator_wrapped, text_operator_wrapped]
  match splitAtOperator parts with
  | none => rfl
  | some (first :: _ :: _, _, _) =>
      simp [Part.text_wrapped, Except.map]
  | some ([], _, _ :: second :: _) | some ([_], _, _ :: second :: _) =>
      simp [Part.text_wrapped, Except.map]
  | some ([], op, []) | some ([], op, [_]) | some ([_], op, []) | some ([_], op, [_]) => rfl

theorem methodName_of_other {part : Part} (other : ∀ name, part ≠ .method name)
    (rest : List Part) :
    methodName (part :: rest) =
      .error (.unexpectedPart part.text (Expr.call (part :: rest)).text) := by
  cases part with
  | method name => exact absurd rfl (other name)
  | literal | null | operator | segment | expr => rfl

theorem methodName_wrapped (parts : List Part) :
    methodName (wrappedParts true parts) = methodName parts := by
  have written := text_call_wrapped parts
  cases parts with
  | nil => rfl
  | cons part rest =>
      by_cases named : ∃ name, part = .method name
      · obtain ⟨name, rfl⟩ := named
        rfl
      · have other : ∀ name, part ≠ .method name := not_exists.mp named
        rw [wrappedParts_cons] at written ⊢
        rw [methodName_of_other (by simpa using other), methodName_of_other other,
          Part.text_wrapped, written]

theorem methodArguments_wrapped (parts : List Part) :
    methodArguments (wrappedParts true parts) = wrappedParts true (methodArguments parts) := by
  cases parts <;> rfl

@[simp] theorem length_wrappedParts (operand : Bool) (parts : List Part) :
    (wrappedParts operand parts).length = parts.length := by
  rw [wrappedParts_eq_map, List.length_map]

end Form

section Values

variable {env : Env} {frame : Frame}

def Expr.EvalsWrapped (env : Env) (expr : Expr) : Prop :=
  ∀ frame, expr.wrapped.eval env frame = expr.eval env frame

theorem Part.eval_wrapped {part : Part}
    (inside : ∀ inner, part = .expr inner → inner.EvalsWrapped env) :
    (part.wrapped true).eval env frame = part.eval env frame := by
  cases part with
  | expr inner =>
      rw [Part.wrapped_expr, Part.eval, Part.eval]
      exact inside inner rfl frame
  | literal | null | operator | segment | method => rfl

theorem evalFirst_wrapped {parts : List Part}
    (inside : ∀ inner, Part.expr inner ∈ parts → inner.EvalsWrapped env) :
    evalFirst env frame (wrappedParts true parts) = evalFirst env frame parts := by
  cases parts with
  | nil => rfl
  | cons part rest =>
      rw [wrappedParts_cons, evalFirst, evalFirst]
      exact Part.eval_wrapped fun inner same => inside inner (by simp [same])

theorem evalOperator_wrapped (whole parts : List Part)
    (inside : ∀ inner, Part.expr inner ∈ parts → inner.EvalsWrapped env) :
    evalOperator env frame (wrappedParts true whole) (wrappedParts true parts) =
      evalOperator env frame whole parts := by
  induction parts with
  | nil => rw [wrappedParts_nil, evalOperator, evalOperator, text_operator_wrapped]
  | cons part rest ih =>
      have later := ih fun inner member => inside inner (List.mem_cons_of_mem _ member)
      have here : (part.wrapped true).eval env frame = part.eval env frame :=
        Part.eval_wrapped fun inner same => inside inner (by simp [same])
      -- The operator is looked for at this part and at the next one. Whether it stands there is
      -- the same with operations around the literals.
      by_cases first : ∃ op, part = .operator op
      · obtain ⟨op, rfl⟩ := first
        have right : evalFirst env frame (wrappedParts true rest) = evalFirst env frame rest :=
          evalFirst_wrapped fun inner member => inside inner (List.mem_cons_of_mem _ member)
        rw [wrappedParts_cons, Part.wrapped_operator, evalOperator, evalOperator, right]
      · have operand : ∀ op, part ≠ .operator op := not_exists.mp first
        have wrappedOperand : ∀ op, part.wrapped true ≠ .operator op := by simpa using operand
        by_cases second : ∃ op after, rest = .operator op :: after
        · obtain ⟨op, after, rfl⟩ := second
          have right : evalFirst env frame (wrappedParts true after) = evalFirst env frame after :=
            evalFirst_wrapped fun inner member => inside inner (by simp [member])
          rw [wrappedParts_cons, wrappedParts_cons, Part.wrapped_operator,
            evalOperator_binary wrappedOperand, evalOperator_binary operand, here, right]
        · have behind : ∀ op after, rest ≠ .operator op :: after := by simpa using second
          have wrappedBehind : ∀ op after, wrappedParts true rest ≠ .operator op :: after := by
            intro op after same
            obtain ⟨next, found⟩ := operator_of_wrappedParts true same
            exact behind op next found
          rw [wrappedParts_cons, evalOperator_skip wrappedOperand wrappedBehind,
            evalOperator_skip operand behind, later]

theorem evalArguments_wrapped (parts : List Part)
    (inside : ∀ inner, Part.expr inner ∈ parts → inner.EvalsWrapped env) :
    evalArguments env frame (wrappedParts true parts) = evalArguments env frame parts := by
  induction parts with
  | nil => rfl
  | cons part rest ih =>
      have later := ih fun inner member => inside inner (List.mem_cons_of_mem _ member)
      have here : (part.wrapped true).eval env frame = part.eval env frame :=
        Part.eval_wrapped fun inner same => inside inner (by simp [same])
      rw [wrappedParts_cons, evalArguments, evalArguments, here, later]

theorem evalSteps_wrapped (value : Value) (steps : List Part)
    (inside : ∀ inner, Part.expr inner ∈ steps → inner.EvalsWrapped env) :
    evalSteps env frame value (wrappedParts false steps) = evalSteps env frame value steps := by
  induction steps generalizing value with
  | nil => rfl
  | cons step rest ih =>
      have later (value : Value) :=
        ih value fun inner member => inside inner (List.mem_cons_of_mem _ member)
      cases step with
      | segment name => exact later _
      | expr bracket =>
          have same := inside bracket List.mem_cons_self
          cases form : bracket.isCondition with
          | true =>
              rw [wrappedParts_cons, Part.wrapped_expr, evalSteps_filter form,
                evalSteps_filter (bracket.isCondition_wrapped.trans form)]
              simp only [same _, later]
          | false =>
              rw [wrappedParts_cons, Part.wrapped_expr, evalSteps_index form,
                evalSteps_index (bracket.isCondition_wrapped.trans form)]
              simp only [same _, later]
      | literal | null | operator | method => rfl

theorem implementation_wrapped (env : Env) (parts : List Part) :
    implementation? env (wrappedParts true parts) = implementation? env parts := by
  rw [implementation?, implementation?, methodName_wrapped, methodArguments_wrapped,
    length_wrappedParts, text_call_wrapped]

theorem Expr.eval_wrapped (env : Env) (expr : Expr) : expr.EvalsWrapped env := by
  induction expr using Expr.parts_induction with
  | step expr inside =>
      intro frame
      cases expr with
      | literal parts =>
          rw [Expr.wrapped]
          rcases single_or_several parts with ⟨value, bare, same⟩ | ⟨several, stillSeveral⟩
          · rw [same, bare]
          · rw [Expr.eval, Expr.eval, text_literal_wrapped]
            · exact several
            · exact stillSeveral
      | operator parts =>
          rw [Expr.wrapped, Expr.eval, Expr.eval]
          exact evalOperator_wrapped parts parts inside
      | path parts =>
          cases parts with
          | nil => rfl
          | cons part steps =>
              cases part with
              | segment name =>
                  rw [Expr.wrapped, wrappedParts_cons, Part.wrapped_segment, Expr.eval, Expr.eval]
                  apply evalSteps_wrapped
                  exact fun inner member => inside inner (List.mem_cons_of_mem _ member)
              | literal | null | operator | method | expr => rfl
      | call parts =>
          rw [Expr.wrapped, Expr.eval, Expr.eval, implementation_wrapped]
          cases parts with
          | nil => rfl
          | cons name arguments =>
              have given : evalArguments env frame (wrappedParts true arguments) =
                  evalArguments env frame arguments :=
                evalArguments_wrapped arguments fun inner member =>
                  inside inner (List.mem_cons_of_mem _ member)
              simp only [wrappedParts_cons, given]

end Values

section Storage

variable {env : Env} {root content : Content}

theorem storageIndex_wrapped (bracket : Expr) :
    storageIndex env root content bracket.wrapped = storageIndex env root content bracket := by
  rw [storageIndex, storageIndex, bracket.isCondition_wrapped, bracket.text_wrapped,
    bracket.eval_wrapped env]

theorem storageSteps_other {whole rest : List Part} {known : Bool} {part : Part}
    (step : ∀ name, part ≠ .segment name) :
    storageSteps env whole root content known (part :: rest) =
      .error (.unexpectedPart part.text (Expr.path whole).text) := by
  cases part with
  | segment name => exact absurd rfl (step name)
  | literal | null | operator | method | expr => rfl

theorem storageSteps_wrapped (whole parts : List Part) (content : Content) (known : Bool) :
    storageSteps env (wrappedParts false whole) root content known (wrappedParts false parts) =
      storageSteps env whole root content known parts := by
  induction parts using steps_induction generalizing content known with
  | nil => rw [wrappedParts_nil, storageSteps, storageSteps, text_path_wrapped]
  | last name => rfl
  | lastBracket name bracket =>
      simp only [wrappedParts_cons, wrappedParts_nil, Part.wrapped_segment, Part.wrapped_expr,
        storageSteps_lastBracket, storageIndex_wrapped]
  | bracketed name bracket next rest ih =>
      simp only [wrappedParts_cons, Part.wrapped_segment, Part.wrapped_expr] at ih ⊢
      simp only [storageSteps_bracketed, storageIndex_wrapped, ih]
  | plain name next rest step ih =>
      cases next with
      | segment after =>
          simp only [wrappedParts_cons, Part.wrapped_segment] at ih ⊢
          simp only [storageSteps_plain, ih]
      | expr bracket => exact absurd rfl (step bracket)
      | literal | null | operator | method =>
          simp [storageSteps, text_path_wrapped]
  | other part rest step =>
      rw [wrappedParts_cons, storageSteps_other (by simpa using step), storageSteps_other step,
        Part.text_wrapped, text_path_wrapped]

theorem Expr.storagePath_wrapped (env : Env) (content : Content) (expr : Expr) :
    expr.wrapped.storagePath env content = expr.storagePath env content := by
  cases expr with
  | path parts => exact storageSteps_wrapped parts parts content true
  | literal | operator | call =>
      exact congrArg (fun text => Except.error (Failure.notAPath text)) (Expr.text_wrapped _)

end Storage

end TypedPath
