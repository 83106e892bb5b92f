import TypedPath.Proofs.ScopeKept

/-! Questions to expressions that share one scope. Typing and checking enter and leave types on
their way, and may stop anywhere with a failure, but no question leaves a trace in the scope: each
is answered as if it were the only one. -/

namespace TypedPath

open ScopeM

def ScopeM.outcome {α : Type} (body : ScopeM α) (scope : Scope) : Except Failure α :=
  match body scope with
  | .ok value _ => .ok value
  | .error failure _ => .error failure

inductive Question where
  | typing (expr : Expr) (context : Option Record)
  | findings (expr : Expr) (context : Option Record)

inductive Answer where
  | typing (outcome : Except Failure Typing)
  | findings (outcome : Except Failure (List Finding))

def Question.ask (env : Env) (scope : Scope) : Question → Answer × Scope
  | typing expr context =>
    let body := expr.infer env context
    (.typing (outcome body scope), final body scope)
  | findings expr context =>
    let body := expr.check env context
    (.findings (outcome body scope), final body scope)

/-- The answers to questions one after the other, each asked in the scope that the one before it has
left, and the scope behind the last. -/
def askAll (env : Env) (scope : Scope) : List Question → List Answer × Scope
  | [] => ([], scope)
  | question :: questions =>
    let (answer, after) := question.ask env scope
    let (answers, last) := askAll env after questions
    (answer :: answers, last)

theorem Question.ask_restores (env : Env) (scope : Scope) (question : Question) :
    (question.ask env scope).2 = scope := by
  cases question with
  | typing expr context => exact expr.infer_restores env context scope
  | findings expr context => exact expr.check_restores env context scope

theorem askAll_eq (env : Env) (scope : Scope) (questions : List Question) :
    askAll env scope questions =
      (questions.map fun question => (question.ask env scope).1, scope) := by
  induction questions with
  | nil => rfl
  | cons question questions ih =>
      have same := question.ask_restores env scope
      simp only [askAll, same, ih, List.map_cons]

/-- Typing and checking leave the scope as they found it, with a result or with a failure, and so
questions that share a scope are answered as each would be alone. -/
theorem scope_left_as_found (env : Env) (scope : Scope) :
    (∀ (expr : Expr) (context : Option Record),
      final (expr.infer env context) scope = scope ∧
        final (expr.check env context) scope = scope) ∧
      ∀ questions, askAll env scope questions =
        (questions.map fun question => (question.ask env scope).1, scope) := by
  refine ⟨?_, askAll_eq env scope⟩
  intro expr context
  exact ⟨expr.infer_restores env context scope, expr.check_restores env context scope⟩

end TypedPath
