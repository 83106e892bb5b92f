import TypedPath.Eval.Evaluate

/-! How a path is evaluated: where its first segment is read, and what each step makes of a
value. -/

namespace TypedPath

def PlainName (name : String) : Prop :=
  unmark? rootMark name = none ∧ unmark? attributeMark name = none ∧ name ≠ selfReference

instance (name : String) : Decidable (PlainName name) :=
  inferInstanceAs (Decidable (_ ∧ _ ∧ _))

/-- All segments of a path are plain names; its brackets may hold anything. -/
def PlainSegments (parts : List Part) : Prop :=
  ∀ name, Part.segment name ∈ parts → PlainName name

theorem PlainSegments.tail {part : Part} {parts : List Part}
    (plain : PlainSegments (part :: parts)) : PlainSegments parts :=
  fun name member => plain name (List.mem_cons_of_mem _ member)

theorem PlainSegments.head {name : String} {parts : List Part}
    (plain : PlainSegments (.segment name :: parts)) : PlainName name :=
  plain name List.mem_cons_self

theorem Content.read_plain {name : String} (plain : PlainName name) (content : Content) :
    content.read name = (content.get? name).getD .null := by
  unfold Content.read
  rw [plain.2.1]
  cases content.get? name <;> rfl

theorem Frame.read_plain {name : String} (plain : PlainName name) (frame : Frame) :
    frame.read name = frame.current.read name := by
  unfold Frame.read
  rw [plain.1]
  exact if_neg plain.2.2

theorem except_bind_eq_ok {ε α β : Type} {first : Except ε α} {next : α → Except ε β} {result : β} :
    (first >>= next) = .ok result ↔ ∃ value, first = .ok value ∧ next value = .ok result := by
  cases first <;> simp [bind, Except.bind]

variable {env : Env} {frame : Frame} {value result : Value} {bracket : Expr} {steps : List Part}

theorem eval_path_plain {name : String} (plain : PlainName name) :
    (Expr.path (.segment name :: steps)).eval env frame =
      evalSteps env frame (frame.current.read name) steps := by
  rw [Expr.eval, frame.read_plain plain]

theorem evalSteps_filter (condition : bracket.isCondition = true) :
    evalSteps env frame value (.expr bracket :: steps) = (do
      let kept ← keepItems (fun item => bracket.eval env (frame.forItem item)) value.filterItems
      evalSteps env frame (.array kept) steps) := by
  rw [evalSteps, if_pos condition]

theorem evalSteps_index (index : bracket.isCondition = false) :
    evalSteps env frame value (.expr bracket :: steps) = (do
      let position ← bracket.eval env frame
      let item ← value.item position
      evalSteps env frame item steps) := by
  rw [evalSteps, if_neg (by simp [index])]

theorem evalSteps_bracket
    (done : evalSteps env frame value (.expr bracket :: steps) = .ok result) :
    (∃ kept, keepItems (fun item => bracket.eval env (frame.forItem item)) value.filterItems =
        .ok kept ∧ evalSteps env frame (.array kept) steps = .ok result) ∨
      ∃ position item, bracket.eval env frame = .ok position ∧ value.item position = .ok item ∧
        evalSteps env frame item steps = .ok result := by
  cases form : bracket.isCondition with
  | true =>
      rw [evalSteps_filter form] at done
      exact .inl (except_bind_eq_ok.mp done)
  | false =>
      rw [evalSteps_index form] at done
      obtain ⟨position, evaluated, done⟩ := except_bind_eq_ok.mp done
      obtain ⟨item, taken, done⟩ := except_bind_eq_ok.mp done
      exact .inr ⟨position, item, evaluated, taken, done⟩

def passes (test : Value → Except EvalError Value) (item : Value) : Bool :=
  (test item).toOption.any Value.isTrue

/-- A filter fails just when its test fails on an item, and otherwise keeps the items that pass. -/
theorem keepItems_eq_ok {test : Value → Except EvalError Value} {items kept : List Value} :
    keepItems test items = .ok kept ↔
      (∀ item ∈ items, ∃ verdict, test item = .ok verdict) ∧ kept = items.filter (passes test) := by
  induction items generalizing kept with
  | nil => simp [keepItems, eq_comm]
  | cons item items ih =>
      rw [keepItems]
      cases tested : test item with
      | error failure =>
          simp [except_bind_eq_ok, tested]
      | ok verdict =>
          simp only [except_bind_eq_ok, ih, List.forall_mem_cons, List.filter_cons, passes, tested]
          constructor
          · rintro ⟨_, same, _, ⟨rest, rfl⟩, done⟩
            cases same
            cases done
            exact ⟨⟨⟨_, rfl⟩, rest⟩, rfl⟩
          · rintro ⟨⟨_, rest⟩, rfl⟩
            exact ⟨_, rfl, _, ⟨rest, rfl⟩, rfl⟩

theorem keepItems_sublist {test : Value → Except EvalError Value} {items kept : List Value}
    (done : keepItems test items = .ok kept) : kept.Sublist items := by
  rw [(keepItems_eq_ok.mp done).2]
  exact List.filter_sublist

theorem Value.itemAt_mem (items : List Value) (position : Int64) :
    Value.itemAt items position = .null ∨ Value.itemAt items position ∈ items := by
  have read (place : Nat) : (items[place]?).getD .null = .null ∨
      (items[place]?).getD .null ∈ items := by
    cases found : items[place]? with
    | none => exact .inl rfl
    | some item => exact .inr (List.mem_of_getElem? found)
  unfold Value.itemAt
  dsimp only
  split
  · split
    · exact .inl rfl
    · exact read _
  · exact read _

theorem Value.item_eq_ok {position item : Value} (done : value.item position = .ok item) :
    item = .null ∨ ∃ items, value = .array items ∧ item ∈ items := by
  unfold Value.item at done
  split at done
  · cases done
  · split at done
    · cases done
      rename_i items
      rcases Value.itemAt_mem items _ with null | member
      · exact .inl null
      · exact .inr ⟨items, rfl, member⟩
    · cases done
      exact .inl rfl
    · cases done

end TypedPath
