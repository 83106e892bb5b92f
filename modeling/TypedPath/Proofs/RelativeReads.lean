import TypedPath.Proofs.OperatorEval
import TypedPath.Proofs.WrittenValues

/-! What an expression depends on: the values with which its paths start, and the texts of those
that it writes out. From the current content it reads only the names with which its relative paths
start. -/

namespace TypedPath

/-- A path that starts with this segment is read from the current content, and neither from the root
nor from the item of a filter. -/
def isRelative (name : String) : Bool :=
  (unmark? rootMark name).isNone && name != selfReference

mutual

def Expr.relativeNames : Expr → List String
  | .path (.segment name :: steps) =>
    if isRelative name then name :: relativeNamesOf steps else relativeNamesOf steps
  | .literal parts | .operator parts | .path parts | .call parts => relativeNamesOf parts

def Part.relativeNames : Part → List String
  | .expr inner => inner.relativeNames
  | _ => []

def relativeNamesOf : List Part → List String
  | [] => []
  | part :: parts => part.relativeNames ++ relativeNamesOf parts

end

theorem relativeNames_of_mem {inner : Expr} {parts : List Part}
    (member : Part.expr inner ∈ parts) : inner.relativeNames ⊆ relativeNamesOf parts := by
  induction parts with
  | nil => cases member
  | cons part parts ih =>
      rw [relativeNamesOf]
      rcases List.mem_cons.mp member with rfl | later
      · rw [Part.relativeNames]
        exact List.subset_append_left _ _
      · exact List.subset_append_of_subset_right _ (ih later)

theorem Expr.relativeNames_parts (expr : Expr) :
    relativeNamesOf expr.parts ⊆ expr.relativeNames := by
  unfold Expr.relativeNames
  split
  · rw [Expr.parts, relativeNamesOf, Part.relativeNames, List.nil_append]
    · split
      · exact List.subset_cons_self _ _
      · exact List.Subset.refl _
    · simp
  all_goals exact List.Subset.refl _

structure Frame.AgreeOn (names : List String) (frame other : Frame) : Prop where
  root : frame.root = other.root
  self : frame.self = other.self
  reads : ∀ name ∈ names, frame.current.read name = other.current.read name

theorem Frame.AgreeOn.forItem {names : List String} {frame other : Frame}
    (agree : frame.AgreeOn names other) (item : Value) :
    (frame.forItem item).AgreeOn names (other.forItem item) := by
  unfold Frame.forItem
  cases item.content? with
  | some content => exact ⟨agree.root, rfl, fun _ _ => rfl⟩
  | none => exact ⟨agree.root, rfl, agree.reads⟩

theorem Frame.AgreeOn.read {names : List String} {frame other : Frame} {name : String}
    (agree : frame.AgreeOn names other) (listed : isRelative name = true → name ∈ names) :
    frame.read name = other.read name := by
  unfold Frame.read
  cases marked : unmark? rootMark name with
  | some bare =>
      dsimp only
      rw [agree.root]
  | none =>
      dsimp only
      split
      · rw [agree.self]
      · rename_i other
        have relative : isRelative name = true := by simp [isRelative, marked, other]
        exact agree.reads name (listed relative)

@[simp] theorem Frame.forItem_root (frame : Frame) (item : Value) :
    (frame.forItem item).root = frame.root := by
  unfold Frame.forItem
  cases item.content? <;> rfl

/-- The same texts are made of some values, whichever of two contents they are read from. -/
def Env.WritesLike (env : Env) (root other : Content) (values : List Value) : Prop :=
  ∀ value ∈ values, value.text (env.listing root) = value.text (env.listing other)

theorem Env.writesLike_of_eq {root other : Content} (env : Env) (same : root = other)
    (values : List Value) : env.WritesLike root other values := by
  intro value _
  rw [same]

theorem Env.writesLike_append {env : Env} {root other : Content} {first second : List Value} :
    env.WritesLike root other (first ++ second) ↔
      env.WritesLike root other first ∧ env.WritesLike root other second :=
  List.forall_mem_append

theorem Env.writesLike_of_hasOneText {env : Env} {root other : Content} {values : List Value}
    (one : ∀ value ∈ values, value.hasOneText = true) : env.WritesLike root other values :=
  fun value written => Value.text_eq_of_hasOneText (one value written)

def Expr.EvaluatesLike (env : Env) (frame other : Frame) (expr : Expr) : Prop :=
  env.WritesLike frame.root other.root (expr.writtenOut env frame) →
    expr.eval env frame = expr.eval env other

section Parts

variable {env : Env} {frame other : Frame}

theorem Part.eval_congr {part : Part} {parts : List Part} (member : part ∈ parts)
    (same : ∀ inner, Part.expr inner ∈ parts → inner.EvaluatesLike env frame other)
    (texts : env.WritesLike frame.root other.root (part.writtenOut env frame)) :
    part.eval env frame = part.eval env other := by
  cases part with
  | expr inner =>
      rw [Part.writtenOut] at texts
      rw [Part.eval, Part.eval]
      exact same inner member texts
  | literal | null | operator | segment | method => rfl

theorem evalFirst_congr {parts : List Part}
    (same : ∀ inner, Part.expr inner ∈ parts → inner.EvaluatesLike env frame other)
    (texts : env.WritesLike frame.root other.root (writtenByFirst env frame parts)) :
    evalFirst env frame parts = evalFirst env other parts := by
  cases parts with
  | nil => rfl
  | cons part parts =>
      rw [writtenByFirst] at texts
      rw [evalFirst, evalFirst]
      exact Part.eval_congr List.mem_cons_self same texts

theorem operate_congr {op : Operator} {left : Value} {parts : List Part}
    (same : ∀ inner, Part.expr inner ∈ parts → inner.EvaluatesLike env frame other)
    (texts : env.WritesLike frame.root other.root
      (writtenByFirst env frame parts ++
        onSuccess (evalFirst env frame parts) (op.writtenOut left))) :
    (do op.operate (env.listing frame.root) left (← evalFirst env frame parts)) =
      (do op.operate (env.listing other.root) left (← evalFirst env other parts)) := by
  obtain ⟨inOperand, inResult⟩ := Env.writesLike_append.mp texts
  rw [← evalFirst_congr same inOperand]
  cases found : evalFirst env frame parts with
  | error failure => simp only [bind, Except.bind]
  | ok right =>
      rw [found, onSuccess] at inResult
      simp only [bind, Except.bind]
      exact Operator.operate_listing inResult

theorem evalOperator_congr {whole parts : List Part}
    (same : ∀ inner, Part.expr inner ∈ parts → inner.EvaluatesLike env frame other)
    (texts : env.WritesLike frame.root other.root (writtenByOperator env frame parts)) :
    evalOperator env frame whole parts = evalOperator env other whole parts := by
  induction parts with
  | nil => rfl
  | cons part rest ih =>
      by_cases first : ∃ op, part = .operator op
      · obtain ⟨op, rfl⟩ := first
        rw [writtenByOperator] at texts
        rw [evalOperator, evalOperator]
        exact operate_congr (fun inner member => same inner (List.mem_cons_of_mem _ member)) texts
      · have operand : ∀ op, part ≠ .operator op := not_exists.mp first
        by_cases second : ∃ op after, rest = .operator op :: after
        · obtain ⟨op, after, rfl⟩ := second
          rw [writtenByOperator_binary operand, Env.writesLike_append] at texts
          have here := Part.eval_congr List.mem_cons_self same texts.1
          rw [evalOperator_binary operand, evalOperator_binary operand, ← here]
          cases found : part.eval env frame with
          | error failure => simp only [bind, Except.bind]
          | ok left =>
              rw [found, onSuccess] at texts
              have computed := operate_congr (fun inner member => same inner (by simp [member]))
                texts.2
              simpa only [bind, Except.bind] using computed
        · have behind : ∀ op after, rest ≠ .operator op :: after := by simpa using second
          rw [writtenByOperator_skip operand behind] at texts
          rw [evalOperator_skip operand behind, evalOperator_skip operand behind]
          exact ih (fun inner member => same inner (List.mem_cons_of_mem _ member)) texts

theorem evalArguments_congr {parts : List Part}
    (same : ∀ inner, Part.expr inner ∈ parts → inner.EvaluatesLike env frame other)
    (texts : env.WritesLike frame.root other.root (writtenByArguments env frame parts)) :
    evalArguments env frame parts = evalArguments env other parts := by
  induction parts with
  | nil => rfl
  | cons part parts ih =>
      rw [writtenByArguments, Env.writesLike_append] at texts
      rw [evalArguments, evalArguments, ← Part.eval_congr List.mem_cons_self same texts.1]
      cases found : part.eval env frame with
      | error failure => rfl
      | ok value =>
          rw [found] at texts
          rw [ih (fun inner member => same inner (List.mem_cons_of_mem _ member)) texts.2]

theorem keepItems_congr {test otherTest : Value → Except EvalError Value} {items : List Value}
    (same : ∀ item ∈ triedItems test items, test item = otherTest item) :
    keepItems test items = keepItems otherTest items := by
  induction items with
  | nil => rfl
  | cons item items ih =>
      rw [triedItems, List.forall_mem_cons] at same
      rw [keepItems, keepItems, ← same.1]
      cases found : test item with
      | error failure => rfl
      | ok verdict =>
          rw [found] at same
          rw [ih same.2]

theorem evalSteps_congr {related : Frame → Frame → Prop} {steps : List Part}
    (forItem : ∀ (frame other : Frame) (item : Value), related frame other →
      related (frame.forItem item) (other.forItem item))
    (same : ∀ inner, Part.expr inner ∈ steps → ∀ frame other : Frame, related frame other →
      inner.EvaluatesLike env frame other)
    (start : related frame other) (value : Value)
    (texts : env.WritesLike frame.root other.root (writtenBySteps env frame value steps)) :
    evalSteps env frame value steps = evalSteps env other value steps := by
  -- A filter opens a frame for each item, so the brackets have to be the same in all frames that
  -- are related and not in these two only.
  induction steps generalizing value with
  | nil => rfl
  | cons step steps ih =>
      have later := ih fun inner member => same inner (List.mem_cons_of_mem _ member)
      cases step with
      | segment name =>
          rw [writtenBySteps] at texts
          rw [evalSteps, evalSteps]
          exact later _ texts
      | expr bracket =>
          have bracketSame := same bracket List.mem_cons_self
          rw [writtenBySteps] at texts
          cases form : bracket.isCondition with
          | true =>
              rw [form, if_pos rfl, Env.writesLike_append] at texts
              have kept : keepItems (fun item => bracket.eval env (frame.forItem item))
                    value.filterItems =
                  keepItems (fun item => bracket.eval env (other.forItem item))
                    value.filterItems := by
                apply keepItems_congr
                intro item tried
                apply bracketSame _ _ (forItem frame other item start)
                intro inner written
                rw [Frame.forItem_root, Frame.forItem_root]
                exact texts.1 inner (List.mem_flatMap.mpr ⟨item, tried, written⟩)
              rw [evalSteps_filter form, evalSteps_filter form, ← kept]
              cases found : keepItems (fun item => bracket.eval env (frame.forItem item))
                value.filterItems with
              | error failure => rfl
              | ok items =>
                  rw [found] at texts
                  exact later _ texts.2
          | false =>
              rw [form, if_neg Bool.false_ne_true, Env.writesLike_append] at texts
              rw [evalSteps_index form, evalSteps_index form, ← bracketSame _ _ start texts.1]
              cases evaluated : bracket.eval env frame with
              | error failure => rfl
              | ok index =>
                  rw [evaluated] at texts
                  cases taken : value.item index with
                  | error failure => simp only [taken, bind, Except.bind]
                  | ok item =>
                      simp only [onSuccess, taken] at texts
                      simp only [taken, bind, Except.bind]
                      exact later _ texts.2
      | literal | null | operator | method => rfl

end Parts

/-- Frames that are related stay so when a filter looks at an item, and a path starts in both with
the same value, as long as its first name is among these if it is relative. -/
structure Frame.KeepsReads (names : List String) (related : Frame → Frame → Prop) : Prop where
  forItem : ∀ (frame other : Frame) (item : Value), related frame other →
    related (frame.forItem item) (other.forItem item)
  read : ∀ (frame other : Frame) (name : String), related frame other →
    (isRelative name = true → name ∈ names) → frame.read name = other.read name

theorem Expr.eval_related {env : Env} {names : List String} {related : Frame → Frame → Prop}
    (alike : Frame.KeepsReads names related) (expr : Expr) (within : expr.relativeNames ⊆ names)
    {frame other : Frame} (start : related frame other) : expr.EvaluatesLike env frame other := by
  induction expr using Expr.parts_induction generalizing frame other with
  | step expr ih =>
      have inside (inner : Expr) (member : Part.expr inner ∈ expr.parts) (frame other : Frame)
          (start : related frame other) : inner.EvaluatesLike env frame other := by
        have fewer := List.Subset.trans (relativeNames_of_mem member) expr.relativeNames_parts
        exact ih inner member (List.Subset.trans fewer within) start
      have same (inner : Expr) (member : Part.expr inner ∈ expr.parts) :
          inner.EvaluatesLike env frame other := inside inner member frame other start
      intro texts
      cases expr with
      | literal parts =>
          by_cases single : ∃ value, parts = [.literal value]
          · obtain ⟨value, rfl⟩ := single
            rfl
          · have several (value : Literal) : parts ≠ [.literal value] :=
              fun found => single ⟨value, found⟩
            rw [Expr.eval, Expr.eval] <;> exact several
      | operator parts =>
          rw [Expr.writtenOut] at texts
          rw [Expr.eval, Expr.eval]
          exact evalOperator_congr same texts
      | path parts =>
          cases parts with
          | nil => rfl
          | cons part steps =>
              cases part with
              | segment name =>
                  have first : frame.read name = other.read name := by
                    apply alike.read frame other name start
                    intro relative
                    exact within (by simp [Expr.relativeNames, relative])
                  rw [Expr.writtenOut] at texts
                  rw [Expr.eval, Expr.eval, ← first]
                  apply evalSteps_congr alike.forItem _ start _ texts
                  intro inner member
                  exact inside inner (List.mem_cons_of_mem _ member)
              | literal | null | operator | method | expr => rfl
      | call parts =>
          cases parts with
          | nil => rw [Expr.eval, Expr.eval]
          | cons method arguments =>
              rw [Expr.writtenOut] at texts
              rw [Expr.eval, Expr.eval]
              cases found : implementation? env (method :: arguments) with
              | error failure => rfl
              | ok run =>
                  rw [found] at texts
                  have given : evalArguments env frame arguments =
                      evalArguments env other arguments :=
                    evalArguments_congr
                      (fun inner member => same inner (List.mem_cons_of_mem _ member)) texts
                  simp only [given]

/-- An expression has the same value in frames that agree on the names it reads. -/
theorem Expr.eval_congr {env : Env} (expr : Expr) {frame other : Frame}
    (agree : frame.AgreeOn expr.relativeNames other) :
    expr.eval env frame = expr.eval env other := by
  have alike : Frame.KeepsReads expr.relativeNames (Frame.AgreeOn expr.relativeNames) :=
    ⟨fun _ _ item agree => agree.forItem item, fun _ _ _ agree listed => agree.read listed⟩
  exact expr.eval_related alike (List.Subset.refl _) agree
    (env.writesLike_of_eq agree.root _)

end TypedPath
