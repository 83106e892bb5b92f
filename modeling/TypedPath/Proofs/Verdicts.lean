import TypedPath.Proofs.DepthLimit
import TypedPath.Proofs.FaultyForms

/-! Well-formed expressions get a verdict: without a limit of nesting a check of them always ends
with its findings, however ill typed they are. -/

namespace TypedPath

/-- Operators stand between at most two operands, method calls start with the name of the method and
go on with arguments, and so for all operations inside. The steps of a path and the parts of a
literal operation may be anything. -/
inductive Expr.WellFormed : Expr → Prop where
  | literal (parts : List Part) : WellFormed (.literal parts)
  | operator (left : Option Part) (op : Operator) (right : Option Part)
      (operands : ∀ part ∈ left.toList ++ right.toList, part.isOperand = true)
      (inside : ∀ inner, Part.expr inner ∈ left.toList ++ right.toList → WellFormed inner) :
      WellFormed (.operator (left.toList ++ .operator op :: right.toList))
  | path (parts : List Part) (inside : ∀ inner, Part.expr inner ∈ parts → WellFormed inner) :
      WellFormed (.path parts)
  | call (name : String) (arguments : List Part)
      (operands : ∀ part ∈ arguments, part.isOperand = true)
      (inside : ∀ inner, Part.expr inner ∈ arguments → WellFormed inner) :
      WellFormed (.call (.method name :: arguments))

theorem OperatorForm.ofParts_of_operands (left : Option Part) (op : Operator) (right : Option Part)
    (operands : ∀ part ∈ left.toList ++ right.toList, part.isOperand = true) :
    OperatorForm.ofParts (left.toList ++ .operator op :: right.toList) = .ok ⟨op, left, right⟩ := by
  cases left with
  | none => cases right <;> rfl
  | some part =>
      have operand := operands part (by simp)
      cases part with
      | literal | null | expr => cases right <;> rfl
      | operator | segment | method => cases operand

theorem Expr.WellFormed.not_faulty {expr : Expr} {failure : Failure} (formed : expr.WellFormed) :
    ¬ expr.FaultyForm failure := by
  induction formed with
  | literal parts =>
      intro faulty
      cases faulty with
      | inside opened _ _ => exact opened parts rfl
  | operator left op right operands inside ih =>
      have known := OperatorForm.ofParts_of_operands left op right operands
      intro faulty
      cases faulty with
      | operator unformed =>
          rw [known] at unformed
          cases unformed
      | operand formed side stray =>
          rw [known] at formed
          cases formed
          have operand := operands _ (by simpa [eq_comm] using side)
          rw [stray] at operand
          cases operand
      | inside _ member faulty =>
          exact ih _ (by simpa [Expr.parts] using member) faulty
  | path parts inside ih =>
      intro faulty
      cases faulty with
      | inside _ member faulty => exact ih _ member faulty
  | call name arguments operands inside ih =>
      intro faulty
      cases faulty with
      | method unnamed => cases unnamed
      | argument member stray =>
          have operand := operands _ member
          rw [stray] at operand
          cases operand
      | inside _ member faulty =>
          exact ih _ (by simpa [Expr.parts] using member) faulty

/-- A well-formed expression is validated against any schema, or none, with a list of diagnostics as
the result and never a failure. -/
theorem wellFormed_gets_verdict (env : Env) (schema : Option Record) (expr : Expr)
    (unlimited : env.config.maxDepth = none) (formed : expr.WellFormed) :
    ∃ diagnostics, expr.validate env schema = .ok diagnostics := by
  cases run : expr.check env schema (.start schema) with
  | ok findings after =>
      have found : expr.findings env schema = .ok findings :=
        ScopeM.runFrom_eq_ok.mpr ⟨after, run⟩
      rw [Expr.validate, found]
      exact ⟨_, rfl⟩
  | error failure after =>
      rcases expr.check_failsOnly env schema _ failure after run with ⟨limit, limited, _⟩ | faulty
      · rw [unlimited] at limited
        cases limited
      · exact absurd faulty formed.not_faulty

def emptySum : Expr := .operator [.expr (.path []), .operator .add, .null]

/-- Much is wrong with this order and nothing is out of place:
`items[emptySum]/colour > weigh(3)`. -/
def hopelessOrder : Expr :=
  .operator [.expr (.path [.segment "items", .expr emptySum, .segment "colour"]),
    .operator .greater, .expr (.call [.method "weigh", .literal (.integer 3)])]

theorem emptySum_wellFormed : emptySum.WellFormed := by
  apply Expr.WellFormed.operator (some (.expr (.path []))) .add (some .null)
  · simp [Part.isOperand]
  · simp [Expr.WellFormed.path]

theorem hopelessOrder_wellFormed : hopelessOrder.WellFormed := by
  have colours : (Expr.path [.segment "items", .expr emptySum, .segment "colour"]).WellFormed := by
    apply Expr.WellFormed.path
    simp [emptySum_wellFormed]
  have weight : (Expr.call [.method "weigh", .literal (.integer 3)]).WellFormed := by
    apply Expr.WellFormed.call
    · simp [Part.isOperand]
    · simp
  apply Expr.WellFormed.operator (some (.expr _)) .greater (some (.expr _))
  · simp [Part.isOperand]
  · simp [colours, weight]

theorem wellFormed_gets_verdict_hopelessOrder :
    hopelessOrder.WellFormed ∧
      hopelessOrder.validate (Env.standard.withLimit none) (some orderSchema) ≠ .ok [] ∧
      ∃ diagnostics, hopelessOrder.validate (Env.standard.withLimit none) (some orderSchema) =
        .ok diagnostics :=
  ⟨hopelessOrder_wellFormed, by decide +kernel, wellFormed_gets_verdict
    (Env.standard.withLimit none) (some orderSchema) hopelessOrder rfl hopelessOrder_wellFormed⟩

end TypedPath
