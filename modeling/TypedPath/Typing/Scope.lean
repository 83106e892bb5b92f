import TypedPath.Env
import TypedPath.Failure

/-! The scope in which an expression is typed: the types that enclose it and the depth it has. -/

namespace TypedPath

/-- The types that a path has entered, innermost first, and the number of open operations. -/
structure Scope where
  trail : List Ty
  nesting : Nat

namespace Scope

def start (root : Option Record) : Scope := ⟨root.toList.map .record, 0⟩

def root (scope : Scope) : Option Record := scope.trail.getLast?.bind Ty.record?

def current (scope : Scope) : Option Ty := scope.trail.head?

def depth (scope : Scope) : Nat := scope.trail.length

def enter (scope : Scope) (ty : Ty) : Scope := { scope with trail := ty :: scope.trail }

def truncate (scope : Scope) (depth : Nat) : Scope :=
  { scope with trail := scope.trail.drop (scope.trail.length - depth) }

end Scope

/-- Computations that read and change the scope and may fail; a failure keeps the scope as it was
then. -/
abbrev ScopeM := EStateM Failure Scope

namespace ScopeM

def lift {α : Type} (result : Except Failure α) : ScopeM α := fun scope =>
  match result with
  | .ok value => .ok value scope
  | .error failure => .error failure scope

def enter (ty : Ty) : ScopeM Unit := modify (·.enter ty)

def oneDeeper {α : Type} (env : Env) (body : ScopeM α) : ScopeM α := fun scope =>
  match env.config.maxDepth with
  | some limit => if limit ≤ scope.nesting then .error (.tooDeep limit) scope else run scope
  | none => run scope
where
  run (scope : Scope) : EStateM.Result Failure Scope α :=
    match body { scope with nesting := scope.nesting + 1 } with
    | .ok value after => .ok value { after with nesting := after.nesting - 1 }
    | .error failure after => .error failure { after with nesting := after.nesting - 1 }

def leaving {α : Type} (body : ScopeM α) : ScopeM α := fun scope =>
  match body scope with
  | .ok value after => .ok value (after.truncate scope.depth)
  | .error failure after => .error failure (after.truncate scope.depth)

end ScopeM

end TypedPath
