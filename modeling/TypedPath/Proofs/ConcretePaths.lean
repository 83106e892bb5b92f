import TypedPath.Proofs.StoragePlaces

/-! A storage path is concrete: it is itself a path, of names and indexes, that is stored under the
same text whatever the content. -/

namespace TypedPath

def Part.unrooted : Part → Part
  | .segment name => .segment (withoutRoot name)
  | part => part

/-- A path without root marks and with indexes in place of its brackets. -/
def concretePath (parts : List Part) (indexes : List Int64) : List Part :=
  withIndexes (parts.map Part.unrooted) indexes

def StoredStep.step (done : StoredStep) : PathStep :=
  ⟨done.name, done.index.map fun index => .literal [.literal (.integer index)]⟩

section Steps

variable {env : Env} {whole : List Part} {root content : Content} {known : Bool} {text : String}

theorem steps_of_stored (parts : List Part)
    (stored : storageSteps env whole root content known parts = .ok text) :
    ∃ steps : List PathStep, parts = steps.flatMap PathStep.parts := by
  induction parts using steps_induction generalizing content known text with
  | nil => cases stored
  | last name => exact ⟨[⟨name, none⟩], rfl⟩
  | lastBracket name bracket => exact ⟨[⟨name, some bracket⟩], rfl⟩
  | bracketed name bracket next rest ih =>
      rw [storageSteps_bracketed] at stored
      obtain ⟨index, _, stored⟩ := except_bind_eq_ok.mp stored
      obtain ⟨later, storedLater, _⟩ := except_bind_eq_ok.mp stored
      obtain ⟨steps, same⟩ := ih storedLater
      exact ⟨⟨name, some bracket⟩ :: steps, by rw [same]; rfl⟩
  | plain name next rest step ih =>
      obtain ⟨after, rfl⟩ := next_segment_of_stored step stored
      rw [storageSteps_plain] at stored
      obtain ⟨later, storedLater, _⟩ := except_bind_eq_ok.mp stored
      obtain ⟨steps, same⟩ := ih storedLater
      exact ⟨⟨name, none⟩ :: steps, by rw [same]; rfl⟩
  | other part rest step =>
      obtain ⟨name, steps, split⟩ := segment_of_stored stored
      cases split
      exact absurd rfl (step name)

theorem pathText_step (done : StoredStep) (rest : List Part) :
    pathText true (done.step.parts ++ rest) = done.text ++ pathText false rest := by
  obtain ⟨name, index⟩ := done
  cases index with
  | none => exact pathText_first name rest
  | some index =>
      have parts : (StoredStep.step ⟨name, some index⟩).parts ++ rest = .segment name ::
          .expr (.literal [.literal (.integer index)]) :: rest := rfl
      rw [parts, pathText_first, pathText_index, StoredStep.text]
      simp only [String.append_assoc]

theorem pathText_stored (stored : List StoredStep) :
    pathText true ((stored.map StoredStep.step).flatMap PathStep.parts) =
      "/".intercalate (stored.map StoredStep.text) := by
  induction stored with
  | nil => simp [pathText]
  | cons done stored ih =>
      rw [List.map_cons, List.flatMap_cons, pathText_step]
      cases stored with
      | nil => simp [pathText]
      | cons next stored =>
          have first : ((next :: stored).map StoredStep.step).flatMap PathStep.parts =
              .segment next.name :: (next.step.bracket.toList.map .expr ++
                (stored.map StoredStep.step).flatMap PathStep.parts) := rfl
          rw [first] at ih ⊢
          rw [pathText_later, ih, storedText_cons (List.cons_ne_nil _ _), String.append_assoc]

end Steps

theorem withoutRoot_of_bare {segment : String} (bare : segment.toList.head? ≠ some '/') :
    withoutRoot segment = segment := by
  unfold withoutRoot
  split
  · rename_i spelled
    rw [spelled] at bare
    exact absurd rfl bare
  · rfl

section Again

variable {env : Env} {root content : Content}

theorem StoredStep.Stores.again {step : PathStep} {done : StoredStep}
    (stores : done.Stores env root content step)
    (bare : (withoutRoot step.segment).toList.head? ≠ some '/') (other : Env)
    (otherRoot otherContent : Content) :
    done.Stores other otherRoot otherContent done.step := by
  obtain ⟨segment, bracket⟩ := step
  obtain ⟨name, index⟩ := done
  obtain ⟨rfl, related⟩ := stores
  constructor
  · exact (withoutRoot_of_bare bare).symm
  · cases related with
    | none => exact .none
    | some stands => exact .some ⟨rfl, ⟨.integer _, rfl, .integer _⟩, stands.nonnegative⟩

theorem StoredAs.stores_of_mem {start : Enclosure} {steps : List PathStep}
    {stored : List StoredStep} {done : StoredStep} (along : StoredAs env root start steps stored)
    (member : done ∈ stored) :
    ∃ step ∈ steps, ∃ content, done.Stores env root content step := by
  obtain ⟨k, within, rfl⟩ := List.mem_iff_getElem.mp member
  have bound : k < steps.length := along.length ▸ within
  exact ⟨steps[k], List.getElem_mem bound, _,
    along.each k _ _ (List.getElem?_eq_getElem bound) (List.getElem?_eq_getElem within)⟩

theorem StoredAs.again {start : Enclosure} {steps : List PathStep} {stored : List StoredStep}
    (along : StoredAs env root start steps stored)
    (bare : ∀ step ∈ steps, (withoutRoot step.segment).toList.head? ≠ some '/') (other : Env)
    (otherRoot : Content) (otherStart : Enclosure) :
    StoredAs other otherRoot otherStart (stored.map StoredStep.step) stored := by
  refine ⟨by simp, ?_⟩
  intro k step done present presentDone
  rw [List.getElem?_map, presentDone] at present
  cases present
  obtain ⟨step, inPath, _, stores⟩ := along.stores_of_mem (List.mem_of_getElem? presentDone)
  exact stores.again (bare step inPath) other otherRoot _

theorem StoredAs.concretePath_eq {start : Enclosure} {steps : List PathStep}
    {stored : List StoredStep} (along : StoredAs env root start steps stored) :
    (stored.map StoredStep.step).flatMap PathStep.parts =
      concretePath (steps.flatMap PathStep.parts) (stored.filterMap StoredStep.index) := by
  induction steps generalizing start stored with
  | nil =>
      rw [List.length_eq_zero_iff.mp along.length]
      rfl
  | cons step steps ih =>
      obtain ⟨done, stored, rfl⟩ := List.exists_cons_of_length_eq_add_one along.length
      obtain ⟨stores, later⟩ := storedAs_cons.mp along
      rw [List.map_cons, List.flatMap_cons, ih later]
      obtain ⟨segment, bracket⟩ := step
      obtain ⟨name, index⟩ := done
      obtain ⟨rfl, related⟩ := stores
      cases related with
      | none | some => rfl

end Again

/-- A storage path is the text of a path of names and indexes: the path without root marks, with the
indexes in place of its brackets that they stand for. That path is stored under the same text in
every environment and content. -/
theorem storage_path_is_concrete (env : Env) (content : Content) (parts : List Part)
    (text : String)
    (bare : ∀ name, Part.segment name ∈ parts → (withoutRoot name).toList.head? ≠ some '/')
    (stored : (Expr.path parts).storagePath env content = .ok text) :
    ∃ (steps : List PathStep) (done : List StoredStep),
      parts = steps.flatMap PathStep.parts ∧ StoredAs env content ⟨content, true⟩ steps done ∧
      text = (Expr.path (concretePath parts (done.filterMap StoredStep.index))).text ∧
      ∀ (other : Env) (otherContent : Content),
        (Expr.path (concretePath parts (done.filterMap StoredStep.index))).storagePath other
          otherContent = .ok text := by
  obtain ⟨steps, rfl⟩ := steps_of_stored parts stored
  have present : steps ≠ [] := by
    rintro rfl
    cases stored
  have written : ∃ done, StoredAs env content ⟨content, true⟩ steps done ∧
      text = "/".intercalate (done.map StoredStep.text) :=
    (storageSteps_eq_ok steps present).mp stored
  obtain ⟨done, along, rfl⟩ := written
  have bareSteps : ∀ step ∈ steps, (withoutRoot step.segment).toList.head? ≠ some '/' := by
    intro step inPath
    exact bare _ (List.mem_flatMap.mpr ⟨step, inPath, List.mem_cons_self⟩)
  have presentDone : done.map StoredStep.step ≠ [] := by
    intro none
    have empty := along.length
    rw [List.map_eq_nil_iff.mp none] at empty
    exact present (List.length_eq_zero_iff.mp empty.symm)
  refine ⟨steps, done, rfl, along, ?_, ?_⟩
  · rw [Expr.text, ← along.concretePath_eq, pathText_stored]
  · intro other otherContent
    rw [← along.concretePath_eq]
    exact (storageSteps_eq_ok _ presentDone).mpr
      ⟨done, along.again bareSteps other otherContent ⟨otherContent, true⟩, rfl⟩

/-- The label of the drawer behind the chosen one: `/cabinet/drawers[chosen + 1]/label`. -/
def nextLabel : List Part :=
  [.segment "/cabinet", .segment "drawers",
    .expr (.operator [.expr (.path [.segment "chosen"]), .operator .add, .literal (.integer 1)]),
    .segment "label"]

theorem storage_path_is_concrete_nextLabel :
    (∀ name, Part.segment name ∈ nextLabel → (withoutRoot name).toList.head? ≠ some '/') ∧
      (Expr.path nextLabel).storagePath .standard (office 0) = .ok "cabinet/drawers[2]/label" ∧
      ∃ indexes : List Int64,
        "cabinet/drawers[2]/label" = (Expr.path (concretePath nextLabel indexes)).text ∧
        ∀ (env : Env) (content : Content),
          (Expr.path (concretePath nextLabel indexes)).storagePath env content =
            .ok "cabinet/drawers[2]/label" := by
  have bare : ∀ name, Part.segment name ∈ nextLabel →
      (withoutRoot name).toList.head? ≠ some '/' := by
    intro name member
    simp only [nextLabel, List.mem_cons, Part.segment.injEq, List.not_mem_nil, reduceCtorEq,
      false_or, or_false] at member
    rcases member with rfl | rfl | rfl <;> decide
  have stored : (Expr.path nextLabel).storagePath .standard (office 0) =
      .ok "cabinet/drawers[2]/label" := rfl
  obtain ⟨_, _, _, _, text, again⟩ := storage_path_is_concrete .standard (office 0) nextLabel
    "cabinet/drawers[2]/label" bare stored
  exact ⟨bare, stored, _, text, again⟩

end TypedPath
