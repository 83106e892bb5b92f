import TypedPath.Proofs.Steps

/-! Typing and checking leave the scope as it was, whether they succeed or fail. The steps of a path
enter types one after the other, and the path leaves all of them at its end. -/

namespace TypedPath

open ScopeM

theorem inferPath_onlyEnters_of_field {env : Env} {whole rest : List Part} {first : Bool}
    {context : Option Record} {strategy : Option Strategy} {name : String}
    (behind : ∀ field, OnlyEnters (inferField env whole context strategy name field rest)) :
    OnlyEnters (inferPath env whole first context strategy (.segment name :: rest)) := by
  rw [inferPath_segment]
  refine onlyEnters_bind restores_get.onlyEnters fun scope => ?_
  split
  · exact (restores_pure _).onlyEnters
  · exact (restores_throw _).onlyEnters
  · exact (restores_throw _).onlyEnters
  · exact behind _

theorem inferPath_onlyEnters (env : Env) (whole parts : List Part)
    (brackets : ∀ bracket, Part.expr bracket ∈ parts →
      ∀ context, Restores (bracket.infer env context))
    (first : Bool) (context : Option Record) (strategy : Option Strategy) :
    OnlyEnters (inferPath env whole first context strategy parts) := by
  induction parts using steps_induction generalizing first context strategy with
  | nil => exact (restores_throw _).onlyEnters
  | last name => exact inferPath_onlyEnters_of_field fun field => (restores_pure _).onlyEnters
  | lastBracket name bracket =>
      have inside := brackets bracket (by simp)
      refine inferPath_onlyEnters_of_field fun field => ?_
      refine onlyEnters_bind (onlyEnters_enter _) fun _ => ?_
      exact (restores_bind (inside _) fun _ => restores_pure _).onlyEnters
  | bracketed name bracket next rest ih =>
      have inside := brackets bracket (by simp)
      have later := ih fun inner member => brackets inner (by simp [member])
      refine inferPath_onlyEnters_of_field fun field => ?_
      refine onlyEnters_bind (onlyEnters_enter _) fun _ => ?_
      refine onlyEnters_bind (inside _).onlyEnters fun typing => ?_
      dsimp only
      split
      · exact later _ _ _
      · split
        · exact (restores_pure _).onlyEnters
        · exact (restores_throw _).onlyEnters
  | plain name next rest step ih =>
      have later := ih fun inner member => brackets inner (by simp [member])
      refine inferPath_onlyEnters_of_field fun field => ?_
      rw [inferField_plain step]
      split
      · exact onlyEnters_bind (onlyEnters_enter _) fun _ => later _ _ _
      · split
        · exact (restores_pure _).onlyEnters
        · exact (restores_throw _).onlyEnters
  | other part rest step => exact fun scope => ⟨[], final_of_error (inferPath_other step)⟩

theorem Expr.infer_restores (env : Env) (expr : Expr) (context : Option Record) :
    Restores (expr.infer env context) := by
  induction expr using Expr.parts_induction generalizing context with
  | step expr ih =>
      cases expr with
      | literal parts =>
          rw [Expr.infer]
          exact restores_oneDeeper (restores_lift _)
      | operator parts =>
          rw [Expr.infer_operator]
          refine restores_oneDeeper (restores_bind (restores_lift _) fun form => ?_)
          split
          · unfold inferLeft
            split
            · rename_i left _
              have inside := ih left (by simp [Expr.parts]) context
              exact restores_bind inside fun _ => restores_pure _
            · exact restores_pure _
            · exact restores_throw _
            · exact restores_throw _
          · exact restores_pure _
      | path parts =>
          rw [Expr.infer]
          exact restores_oneDeeper
            (restores_leaving (inferPath_onlyEnters env parts parts ih true context none))
      | call parts =>
          rw [Expr.infer]
          exact restores_oneDeeper (restores_lift _)

theorem Part.check_restores (env : Env) (whole : Expr) (context : Option Record) (part : Part)
    (inside : ∀ inner, part = .expr inner → Restores (inner.check env context)) :
    Restores (part.check env whole context) := by
  cases part with
  | literal value =>
      rw [Part.check]
      exact restores_pure _
  | null =>
      rw [Part.check]
      exact restores_pure _
  | expr inner =>
      rw [Part.check]
      refine restores_bind (inside inner rfl) fun findings => ?_
      split
      · exact restores_bind (inner.infer_restores env context) fun _ => restores_pure _
      · exact restores_pure _
  | operator op => exact restores_throw _
  | segment name => exact restores_throw _
  | method name => exact restores_throw _

theorem checkSide_restores (env : Env) (whole : List Part) (context : Option Record)
    (side : Option Part)
    (inside : ∀ inner, side = some (.expr inner) → Restores (inner.check env context)) :
    Restores (checkSide env whole context side) := by
  cases side with
  | none => exact restores_pure _
  | some part =>
      exact part.check_restores env _ context fun inner same => inside inner (by rw [same])

theorem checkArguments_restores (env : Env) (whole : Expr) (method : String)
    (context : Option Record) (arguments : List Part) (position : Nat)
    (parameters : List Parameter)
    (inside : ∀ inner, Part.expr inner ∈ arguments → Restores (inner.check env context)) :
    Restores (checkArguments env whole method context position parameters arguments) := by
  induction arguments generalizing position parameters with
  | nil =>
      rw [checkArguments]
      exact restores_pure _
  | cons argument arguments ih =>
      cases parameters with
      | nil =>
          rw [checkArguments]
          exact restores_pure _
      | cons parameter parameters =>
          have here := argument.check_restores env whole context fun inner same =>
            inside inner (by simp [same])
          have later := ih (position + 1) parameters fun inner member =>
            inside inner (by simp [member])
          rw [checkArguments]
          exact restores_bind here fun operand => restores_bind later fun _ => restores_pure _

theorem checkPath_onlyEnters_of_field {env : Env} {rest : List Part} {first : Bool}
    {context : Option Record} {name : String}
    (behind : ∀ field, OnlyEnters (checkField env context field rest)) :
    OnlyEnters (checkPath env first context (.segment name :: rest)) := by
  rw [checkPath_segment]
  refine onlyEnters_bind restores_get.onlyEnters fun scope => ?_
  split
  · exact behind _
  · exact (restores_pure _).onlyEnters

theorem checkPath_onlyEnters (env : Env) (parts : List Part)
    (brackets : ∀ bracket, Part.expr bracket ∈ parts →
      ∀ context, Restores (bracket.check env context))
    (first : Bool) (context : Option Record) :
    OnlyEnters (checkPath env first context parts) := by
  induction parts using steps_induction generalizing first context with
  | nil =>
      rw [checkPath_nil]
      exact (restores_pure _).onlyEnters
  | last name => exact checkPath_onlyEnters_of_field fun field => (restores_pure _).onlyEnters
  | lastBracket name bracket =>
      have inside := brackets bracket (by simp)
      refine checkPath_onlyEnters_of_field fun field => ?_
      refine onlyEnters_bind (onlyEnters_enter _) fun _ => ?_
      refine onlyEnters_bind (inside _).onlyEnters fun findings => ?_
      rw [checkPath_nil]
      split
      · exact (restores_pure _).onlyEnters
      · exact (restores_bind (restores_pure _) fun _ => restores_pure _).onlyEnters
  | bracketed name bracket next rest ih =>
      have inside := brackets bracket (by simp)
      have later := ih fun inner member => brackets inner (by simp [member])
      refine checkPath_onlyEnters_of_field fun field => ?_
      refine onlyEnters_bind (onlyEnters_enter _) fun _ => ?_
      refine onlyEnters_bind (inside _).onlyEnters fun findings => ?_
      split
      · exact (restores_pure _).onlyEnters
      · exact onlyEnters_bind (later _ _) fun _ => (restores_pure _).onlyEnters
  | plain name next rest step ih =>
      have later := ih fun inner member => brackets inner (by simp [member])
      refine checkPath_onlyEnters_of_field fun field => ?_
      rw [checkField_plain step]
      split
      · exact onlyEnters_bind (onlyEnters_enter _) fun _ => later _ _
      · exact (restores_pure _).onlyEnters
  | other part rest step => exact fun scope => ⟨[], final_of_ok (checkPath_other step)⟩

theorem Expr.check_restores (env : Env) (expr : Expr) (context : Option Record) :
    Restores (expr.check env context) := by
  induction expr using Expr.parts_induction generalizing context with
  | step expr ih =>
      cases expr with
      | literal parts =>
          rw [Expr.check]
          exact restores_oneDeeper (restores_pure _)
      | operator parts =>
          rw [Expr.check]
          refine restores_oneDeeper (restores_lift_bind fun form formed => ?_)
          have whole := form.parts_eq parts formed
          split
          · exact restores_pure _
          · rw [checkOperands_eq env parts context parts form formed]
            refine restores_bind (restores_bind ?_ fun _ => restores_bind ?_ fun _ =>
              restores_pure _) fun sides => ?_
            · refine checkSide_restores env parts context form.left fun inner same => ?_
              exact ih inner (by simp [Expr.parts, whole, same]) context
            · refine checkSide_restores env parts context form.right fun inner same => ?_
              exact ih inner (by simp [Expr.parts, whole, same]) context
            · dsimp only
              split
              · exact restores_pure _
              · exact restores_pure _
      | path parts =>
          rw [Expr.check]
          refine restores_oneDeeper (restores_leaving ?_)
          split
          · exact (restores_pure _).onlyEnters
          · exact checkPath_onlyEnters env parts ih true context
      | call parts =>
          rw [Expr.check]
          refine restores_oneDeeper (restores_bind (restores_lift _) fun name => ?_)
          split
          · exact restores_pure _
          · cases parts with
            | nil => exact restores_pure _
            | cons head arguments =>
                exact checkArguments_restores env _ name context arguments 0 _ fun inner member =>
                  ih inner (by simp [Expr.parts, member]) context

end TypedPath
