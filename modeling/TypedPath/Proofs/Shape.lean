import TypedPath.Typing.Check

/-! The shape of expressions: inductions over the operations inside an expression and over the steps
of a path, and the parts that stand around an operator. -/

namespace TypedPath

/-- What an expression has as soon as the operations among its parts have it, all expressions
have. -/
theorem Expr.parts_induction {P : Expr → Prop}
    (step : ∀ expr : Expr, (∀ inner, Part.expr inner ∈ expr.parts → P inner) → P expr)
    (expr : Expr) : P expr := by
  apply step expr
  intro inner member
  have smaller := List.sizeOf_lt_of_mem member
  exact parts_induction step inner
termination_by sizeOf expr
decreasing_by
  cases expr <;> simp only [Expr.parts, Part.expr.sizeOf_spec] at smaller <;>
    simp only [Expr.literal.sizeOf_spec, Expr.operator.sizeOf_spec, Expr.path.sizeOf_spec,
      Expr.call.sizeOf_spec] <;> omega

/-- Induction along a path by segments, each together with the bracket behind it. -/
@[elab_as_elim]
theorem steps_induction {P : List Part → Prop} (nil : P [])
    (last : ∀ name, P [.segment name])
    (lastBracket : ∀ name bracket, P [.segment name, .expr bracket])
    (bracketed : ∀ name bracket next rest, P (next :: rest) →
      P (.segment name :: .expr bracket :: next :: rest))
    (plain : ∀ name next rest, (∀ bracket, next ≠ .expr bracket) → P (next :: rest) →
      P (.segment name :: next :: rest))
    (other : ∀ part rest, (∀ name, part ≠ .segment name) → P (part :: rest)) :
    ∀ parts, P parts
  | [] => nil
  | [.segment name] => last name
  | [.segment name, .expr bracket] => lastBracket name bracket
  | .segment name :: .expr bracket :: next :: rest =>
      bracketed name bracket next rest
        (steps_induction nil last lastBracket bracketed plain other (next :: rest))
  | .segment name :: .segment next :: rest =>
      plain name _ rest (by simp)
        (steps_induction nil last lastBracket bracketed plain other (.segment next :: rest))
  | .segment name :: .literal value :: rest =>
      plain name _ rest (by simp) (other _ rest (by simp))
  | .segment name :: .null :: rest => plain name _ rest (by simp) (other _ rest (by simp))
  | .segment name :: .operator op :: rest => plain name _ rest (by simp) (other _ rest (by simp))
  | .segment name :: .method method :: rest => plain name _ rest (by simp) (other _ rest (by simp))
  | .literal value :: rest => other _ rest (by simp)
  | .null :: rest => other _ rest (by simp)
  | .operator op :: rest => other _ rest (by simp)
  | .method name :: rest => other _ rest (by simp)
  | .expr inner :: rest => other _ rest (by simp)

theorem splitAtOperator_eq_some (parts left right : List Part) (op : Operator)
    (split : splitAtOperator parts = some (left, op, right)) :
    parts = left ++ .operator op :: right ∧ ∀ earlier, Part.operator earlier ∉ left := by
  induction parts generalizing left with
  | nil => simp [splitAtOperator] at split
  | cons part rest ih =>
      by_cases first : ∃ earlier, part = .operator earlier
      · obtain ⟨earlier, rfl⟩ := first
        simp only [splitAtOperator, Option.some.injEq, Prod.mk.injEq] at split
        obtain ⟨rfl, rfl, rfl⟩ := split
        simp
      · have later : splitAtOperator (part :: rest) =
            (splitAtOperator rest).map fun sides => (part :: sides.1, sides.2.1, sides.2.2) := by
          cases part <;> simp_all [splitAtOperator]
        rw [later] at split
        obtain ⟨⟨front, found, back⟩, inner, same⟩ := Option.map_eq_some_iff.mp split
        simp only [Prod.mk.injEq] at same
        obtain ⟨rfl, rfl, rfl⟩ := same
        obtain ⟨rfl, clear⟩ := ih front inner
        refine ⟨rfl, ?_⟩
        intro earlier member
        rcases List.mem_cons.mp member with same | member
        · exact first ⟨earlier, same.symm⟩
        · exact clear earlier member

theorem OperatorForm.split_eq (parts : List Part) (form : OperatorForm)
    (formed : OperatorForm.ofParts parts = .ok form) :
    splitAtOperator parts = some (form.left.toList, form.operator, form.right.toList) := by
  unfold OperatorForm.ofParts at formed
  split at formed
  · cases formed
  · cases formed
  · cases formed
  · rename_i left op right tooManyLeft tooManyRight split
    cases formed
    rw [split]
    match left, right with
    | [], [] => rfl
    | [], [_] => rfl
    | [_], [] => rfl
    | [_], [_] => rfl
    | first :: second :: rest, _ => exact absurd rfl (tooManyLeft first second rest)
    | _, first :: second :: rest => exact absurd rfl (tooManyRight first second rest)

theorem OperatorForm.parts_eq (parts : List Part) (form : OperatorForm)
    (formed : OperatorForm.ofParts parts = .ok form) :
    parts = form.left.toList ++ .operator form.operator :: form.right.toList :=
  (splitAtOperator_eq_some _ _ _ _ (form.split_eq parts formed)).1

theorem OperatorForm.left_ne_operator (parts : List Part) (form : OperatorForm) (part : Part)
    (formed : OperatorForm.ofParts parts = .ok form) (left : form.left = some part)
    (op : Operator) : part ≠ .operator op := by
  have clear := (splitAtOperator_eq_some _ _ _ _ (form.split_eq parts formed)).2 op
  intro same
  apply clear
  simp [left, same]

end TypedPath
