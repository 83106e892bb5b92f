import TypedPath.Proofs.TwoRuns
import TypedPath.Query

/-! The limit of nesting. It decides nothing about an expression: typing and checking under a limit
give what they give without one, or stop there. An expression that is no higher than the limit is
never stopped. -/

namespace TypedPath

open ScopeM

def Env.withLimit (env : Env) (limit : Option Nat) : Env :=
  { env with config := { env.config with maxDepth := limit } }

theorem Env.withLimit_lifts (env : Env) (limit : Option Nat) :
    (env.withLimit limit).Lifts (env.withLimit none) := by
  refine ⟨rfl, rfl, ?_, .inr rfl⟩
  intro literal
  cases literal <;> rfl

theorem ScopeM.runFrom_eq_outcome {α : Type} (root : Option Record) (body : ScopeM α) :
    body.runFrom root = outcome body (.start root) := rfl

theorem Expr.seenAlike_start (expr : Expr) (schema : Option Record) :
    expr.SeenAlike expr.height schema schema (.start schema) (.start schema) := by
  refine ⟨Scope.alike_refl _, contextsAgree_refl _ _, ?_⟩
  simp [Scope.start]

theorem typing_follows_unlimited (env : Env) (limit : Option Nat) (schema : Option Record)
    (expr : Expr) :
    FollowsUnless ((env.withLimit limit).CutsOff (env.withLimit none) expr.height)
      (expr.typing (env.withLimit limit) schema) (expr.typing (env.withLimit none) schema) := by
  rw [Expr.typing, Expr.typing, runFrom_eq_outcome, runFrom_eq_outcome]
  exact expr.infersAlike (env.withLimit_lifts limit) _ _ _ _ (expr.seenAlike_start schema)

theorem validate_follows_unlimited (env : Env) (limit : Option Nat) (schema : Option Record)
    (expr : Expr) :
    FollowsUnless ((env.withLimit limit).CutsOff (env.withLimit none) expr.height)
      (expr.validate (env.withLimit limit) schema)
      (expr.validate (env.withLimit none) schema) := by
  have findings :=
    expr.checksAlike (env.withLimit_lifts limit) _ _ _ _ (expr.seenAlike_start schema)
  exact findings.map _

theorem FollowsUnless.below_limit {α : Type} {env : Env} {limit reach : Nat}
    {result other : Except Failure α}
    (follows : FollowsUnless ((env.withLimit (some limit)).CutsOff (env.withLimit none) reach)
      result other) :
    (result = other ∨ result = .error (.tooDeep limit)) ∧ (reach ≤ limit → result = other) := by
  rcases follows with same | ⟨failure, ⟨most, limited, _, below, rfl⟩, failed⟩
  · exact ⟨.inl same, fun _ => same⟩
  · obtain rfl : limit = most := Option.some.inj limited
    refine ⟨.inr failed, ?_⟩
    intro fits
    omega

/-- Under a limit an expression is typed and checked as without one, or the answer is that it is
nested beyond the limit. For an expression that is no higher than the limit it is always the
former. -/
theorem limit_only_cuts_off (env : Env) (limit : Nat) (schema : Option Record) (expr : Expr) :
    (expr.typing (env.withLimit (some limit)) schema = expr.typing (env.withLimit none) schema ∨
        expr.typing (env.withLimit (some limit)) schema = .error (.tooDeep limit)) ∧
      (expr.validate (env.withLimit (some limit)) schema =
          expr.validate (env.withLimit none) schema ∨
        expr.validate (env.withLimit (some limit)) schema = .error (.tooDeep limit)) ∧
      (expr.height ≤ limit →
        expr.typing (env.withLimit (some limit)) schema = expr.typing (env.withLimit none) schema ∧
          expr.validate (env.withLimit (some limit)) schema =
            expr.validate (env.withLimit none) schema) := by
  have typed := (typing_follows_unlimited env (some limit) schema expr).below_limit
  have checked := (validate_follows_unlimited env (some limit) schema expr).below_limit
  refine ⟨typed.1, checked.1, ?_⟩
  intro fits
  exact ⟨typed.2 fits, checked.2 fits⟩

/-- A sum of ones in which every sum but the innermost has another one as its left operand. -/
def nestedSum : Nat → Expr
  | 0 => .literal [.literal (.integer 1)]
  | count + 1 =>
    .operator [.expr (nestedSum count), .operator .add, .expr (.literal [.literal (.integer 1)])]

theorem limit_only_cuts_off_nestedSum :
    (nestedSum 2).height = 3 ∧
      (nestedSum 2).typing (Env.standard.withLimit (some 3)) none =
        (nestedSum 2).typing (Env.standard.withLimit none) none ∧
      (nestedSum 2).validate (Env.standard.withLimit (some 3)) none =
        (nestedSum 2).validate (Env.standard.withLimit none) none ∧
      (nestedSum 2).validate (Env.standard.withLimit (some 2)) none = .error (.tooDeep 2) := by
  have fits : (nestedSum 2).height ≤ 3 := by decide
  obtain ⟨typed, checked⟩ := (limit_only_cuts_off .standard 3 none (nestedSum 2)).2.2 fits
  exact ⟨rfl, typed, checked, rfl⟩

end TypedPath
