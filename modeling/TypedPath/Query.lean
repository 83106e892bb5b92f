import TypedPath.Eval.StoragePath
import TypedPath.Typing.Check

/-! Questions about an expression: its type against a schema, what is wrong with it, and its value
and place in given content. -/

namespace TypedPath

def Expr.ofName (kind : String) (parts : List Part) : Except Failure Expr :=
  match ExprKind.ofName? kind with
  | some kind => .ok (.ofKind kind parts)
  | none => .error (.unknownKind kind)

def Tree.toExpr (tree : Tree) : Except Failure Expr :=
  match tree.toExpr? with
  | some expr => .ok expr
  | none => .error (.notAnOperation tree.text)

def ScopeM.runFrom {α : Type} (root : Option Record) (body : ScopeM α) : Except Failure α :=
  match body (.start root) with
  | .ok value _ => .ok value
  | .error failure _ => .error failure

theorem ScopeM.runFrom_eq_ok {α : Type} {root : Option Record} {body : ScopeM α} {result : α} :
    body.runFrom root = .ok result ↔ ∃ after, body (.start root) = .ok result after := by
  unfold ScopeM.runFrom
  cases body (.start root) <;> simp

namespace Expr

def typing (env : Env) (schema : Option Record) (expr : Expr) : Except Failure Typing :=
  ScopeM.runFrom schema (expr.infer env schema)

def type (env : Env) (schema : Option Record) (expr : Expr) : Except Failure Ty :=
  (expr.typing env schema).map Typing.ty

def strategy (env : Env) (schema : Option Record) (expr : Expr) :
    Except Failure (Option Strategy) :=
  (expr.typing env schema).map Typing.strategy

def givesMany (env : Env) (schema : Option Record) (expr : Expr) : Except Failure Bool :=
  (expr.typing env schema).map Typing.givesMany

/-- All that is wrong with an expression against a schema; it is well typed when the list is
empty. -/
def findings (env : Env) (schema : Option Record) (expr : Expr) : Except Failure (List Finding) :=
  ScopeM.runFrom schema (expr.check env schema)

def validate (env : Env) (schema : Option Record) (expr : Expr) :
    Except Failure (List Diagnostic) :=
  (expr.findings env schema).map (·.map Finding.diagnostic)

instance (env : Env) (schema : Option Record) (expr : Expr) :
    Decidable (expr.validate env schema = .ok []) :=
  match expr.validate env schema with
  | .ok [] => isTrue rfl
  | .ok (_ :: _) => isFalse nofun
  | .error _ => isFalse nofun

theorem validate_eq_nil {env : Env} {schema : Option Record} {expr : Expr} :
    expr.validate env schema = .ok [] ↔
      ∃ after, expr.check env schema (.start schema) = .ok [] after := by
  rw [← ScopeM.runFrom_eq_ok]
  unfold Expr.validate Expr.findings
  cases ScopeM.runFrom schema (expr.check env schema) <;> simp [Except.map]

end Expr

end TypedPath
