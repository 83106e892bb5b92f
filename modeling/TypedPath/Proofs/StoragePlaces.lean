import TypedPath.Proofs.StoredIndexes

/-! Storage paths follow the values that exist. A step leads into the value that is stored behind
it; from the first step on that leads to none, the content reached last encloses all that follows.
An index is computed in the content that encloses its step. -/

namespace TypedPath

attribute [local instance (high)] instPowNat

open Number

/-- A value that is an integer or a float without a fractional part, and the integer of 64 bits that
it stands for. -/
inductive Value.IsWhole : Value → Int64 → Prop
  | integer (index : Int64) : IsWhole (.integer index) index
  | float {x : Float} {negative : Bool} {m magnitude : Nat} {e : Int}
      (exact : Binary64.ofFloat x = .finite negative m e)
      (whole : m * 2 ^ e.toNat = magnitude * 2 ^ (-e).toNat) :
      IsWhole (.float x) (clampInt64 (signed negative magnitude))

structure Expr.StandsFor (env : Env) (root content : Content) (bracket : Expr) (index : Int64) :
    Prop where
  single : bracket.isCondition = false
  whole : ∃ value, bracket.eval env ⟨root, content, none⟩ = .ok value ∧ value.IsWhole index
  nonnegative : 0 ≤ index

structure PathStep where
  segment : String
  bracket : Option Expr

def PathStep.parts (step : PathStep) : List Part :=
  .segment step.segment :: step.bracket.toList.map .expr

structure StoredStep where
  name : String
  index : Option Int64

def StoredStep.text (done : StoredStep) : String :=
  match done.index with
  | none => done.name
  | some index => done.name ++ "[" ++ toString index.toInt ++ "]"

def withoutRoot (segment : String) : String :=
  match segment.toList with
  | '/' :: rest => String.ofList rest
  | _ => segment

structure StoredStep.Stores (env : Env) (root content : Content) (step : PathStep)
    (done : StoredStep) : Prop where
  name : done.name = withoutRoot step.segment
  index : Option.Rel (Expr.StandsFor env root content) step.bracket done.index

/-- A content on the way of a path, and whether all steps so far exist. -/
structure Enclosure where
  content : Content
  known : Bool

def Enclosure.value? (place : Enclosure) (done : StoredStep) : Option Value :=
  if place.known then
    match place.content.get? done.name, done.index with
    | value, none => value
    | some (.array items), some index => items[index.toInt.toNat]?
    | _, some _ => none
  else none

def Enclosure.behind (place : Enclosure) (done : StoredStep) : Enclosure :=
  match place.value? done with
  | some (.object fields) => ⟨.map fields, true⟩
  | some (.record schema fields) => ⟨.record schema fields, true⟩
  | _ => ⟨place.content, false⟩

/-- All steps of a path are stored, each in the content that the steps before it lead to. -/
structure StoredAs (env : Env) (root : Content) (start : Enclosure) (steps : List PathStep)
    (stored : List StoredStep) : Prop where
  length : stored.length = steps.length
  each : ∀ (k : Nat) (step : PathStep) (done : StoredStep), steps[k]? = some step →
    stored[k]? = some done → done.Stores env root
      ((stored.take k).foldl Enclosure.behind start).content step

theorem Number.scaled_whole_iff {m magnitude : Nat} {e : Int} :
    scaledIsWhole m e = true ∧ scaledFloor m e = magnitude ↔
      m * 2 ^ e.toNat = magnitude * 2 ^ (-e).toNat := by
  by_cases sign : 0 ≤ e
  · have down : (-e).toNat = 0 := by omega
    simp [scaledIsWhole, scaledFloor, sign, down]
  · have up : e.toNat = 0 := by omega
    simp only [scaledIsWhole, scaledFloor, sign, up, decide_false, Bool.false_or, beq_iff_eq,
      if_false, Nat.pow_zero, Nat.mul_one]
    constructor
    · rintro ⟨divides, rfl⟩
      exact (Nat.div_mul_cancel (Nat.dvd_of_mod_eq_zero divides)).symm
    · rintro rfl
      exact ⟨Nat.mul_mod_left _ _, Nat.mul_div_cancel _ (Nat.two_pow_pos _)⟩

theorem Value.index_eq_some {value : Value} {index : Int64} :
    value.index? = some index ↔ value.IsWhole index := by
  constructor
  · intro stands
    cases value with
    | integer n =>
        cases stands
        exact .integer index
    | float x =>
        simp only [Value.index?, wholeInt64?] at stands
        split at stands
        · rename_i negative m e exact
          split at stands
          · rename_i whole
            cases stands
            rw [truncateToInt64, exact]
            exact .float exact (scaled_whole_iff.mp ⟨whole, rfl⟩)
          · cases stands
        · cases stands
    | null | boolean | string | array | object | record => cases stands
  · intro stands
    cases stands with
    | integer => rfl
    | float exact whole =>
        obtain ⟨isWhole, floor⟩ := scaled_whole_iff.mpr whole
        simp [Value.index?, wholeInt64?, truncateToInt64, exact, isWhole, floor]

theorem storageIndex_eq_ok {env : Env} {root content : Content} {bracket : Expr} {index : Int64} :
    storageIndex env root content bracket = .ok index ↔
      bracket.StandsFor env root content index := by
  constructor
  · intro stored
    unfold storageIndex at stored
    split at stored
    · cases stored
    · rename_i single
      split at stored
      · cases stored
      · cases stored
      · rename_i value _ evaluated
        split at stored
        · cases stored
        · rename_i position stands
          split at stored
          · cases stored
          · rename_i nonnegative
            cases stored
            exact ⟨by simpa using single, ⟨value, evaluated, Value.index_eq_some.mp stands⟩,
              Int64.not_lt.mp nonnegative⟩
  · rintro ⟨single, ⟨value, evaluated, whole⟩, nonnegative⟩
    have stands := Value.index_eq_some.mpr whole
    have notNegative := Int64.not_lt.mpr nonnegative
    cases whole with
    | integer | float => simp [storageIndex, single, evaluated, stands, notNegative]

theorem storedName_eq (segment : String) : storedName segment = withoutRoot segment := by
  unfold storedName unmark? withoutRoot
  split
  · rename_i mark rest spelled
    by_cases slash : mark = '/'
    · simp [slash, spelled, rootMark]
    · simp [slash, spelled, rootMark]
  · rename_i spelled
    simp [spelled]

section Steps

variable {env : Env} {whole : List Part} {root : Content} {place : Enclosure} {text : String}

theorem Enclosure.value_plain (place : Enclosure) (name : String) :
    place.value? ⟨storedName name, none⟩ = storedAt place.content place.known name := rfl

theorem Enclosure.value_indexed (place : Enclosure) (name : String) (index : Int64) :
    place.value? ⟨storedName name, some index⟩ =
      storedItem? (storedAt place.content place.known name) index := by
  unfold Enclosure.value? storedAt
  cases place.known with
  | false => rfl
  | true =>
      simp only [if_true]
      cases place.content.get? (storedName name) with
      | none => rfl
      | some value => cases value <;> rfl

theorem Enclosure.enclosingAfter_eq (place : Enclosure) (done : StoredStep) :
    enclosingAfter place.content (place.value? done) =
      ((place.behind done).content, (place.behind done).known) := by
  unfold enclosingAfter Enclosure.behind
  cases place.value? done with
  | none => rfl
  | some value => cases value <;> rfl

theorem stores_plain {content : Content} {segment : String} {done : StoredStep} :
    done.Stores env root content ⟨segment, none⟩ ↔ done = ⟨storedName segment, none⟩ := by
  constructor
  · rintro ⟨name, absent⟩
    obtain ⟨_, _⟩ := done
    cases name.trans (storedName_eq segment).symm
    cases absent
    rfl
  · rintro rfl
    exact ⟨storedName_eq segment, .none⟩

theorem stores_bracketed {content : Content} {segment : String} {bracket : Expr}
    {done : StoredStep} :
    done.Stores env root content ⟨segment, some bracket⟩ ↔
      ∃ index, storageIndex env root content bracket = .ok index ∧
        done = ⟨storedName segment, some index⟩ := by
  constructor
  · rintro ⟨name, stands⟩
    obtain ⟨_, _⟩ := done
    cases name.trans (storedName_eq segment).symm
    cases stands with
    | some stands => exact ⟨_, storageIndex_eq_ok.mpr stands, rfl⟩
  · rintro ⟨index, computed, rfl⟩
    exact ⟨storedName_eq segment, .some (storageIndex_eq_ok.mp computed)⟩

theorem storageSteps_lastStep (step : PathStep) :
    storageSteps env whole root place.content place.known step.parts = .ok text ↔
      ∃ done : StoredStep, done.Stores env root place.content step ∧ text = done.text := by
  obtain ⟨segment, bracket⟩ := step
  cases bracket with
  | none =>
      simp only [stores_plain, exists_eq_left]
      exact ⟨fun written => (Except.ok.inj written).symm, fun same => congrArg Except.ok same.symm⟩
  | some bracket =>
      have steps : PathStep.parts ⟨segment, some bracket⟩ = [.segment segment, .expr bracket] := rfl
      simp only [steps, storageSteps_lastBracket, except_bind_eq_ok, stores_bracketed]
      constructor
      · rintro ⟨index, computed, done⟩
        cases done
        exact ⟨_, ⟨index, computed, rfl⟩, rfl⟩
      · rintro ⟨_, ⟨index, computed, rfl⟩, rfl⟩
        exact ⟨index, computed, rfl⟩

theorem storageSteps_step (step : PathStep) (next : String) (rest : List Part) :
    storageSteps env whole root place.content place.known
        (step.parts ++ .segment next :: rest) = .ok text ↔
      ∃ (done : StoredStep) (later : String), done.Stores env root place.content step ∧
        storageSteps env whole root (place.behind done).content (place.behind done).known
          (.segment next :: rest) = .ok later ∧
        text = done.text ++ "/" ++ later := by
  obtain ⟨segment, bracket⟩ := step
  cases bracket with
  | none =>
      have steps : PathStep.parts ⟨segment, none⟩ ++ .segment next :: rest =
        .segment segment :: .segment next :: rest := rfl
      simp only [steps, storageSteps_plain, ← place.value_plain, place.enclosingAfter_eq,
        except_bind_eq_ok, stores_plain]
      constructor
      · rintro ⟨later, written, done⟩
        cases done
        exact ⟨_, later, rfl, written, rfl⟩
      · rintro ⟨_, later, rfl, written, rfl⟩
        exact ⟨later, written, rfl⟩
  | some bracket =>
      have steps : PathStep.parts ⟨segment, some bracket⟩ ++ .segment next :: rest =
        .segment segment :: .expr bracket :: .segment next :: rest := rfl
      simp only [steps, storageSteps_bracketed, ← place.value_indexed, place.enclosingAfter_eq,
        except_bind_eq_ok, stores_bracketed]
      constructor
      · rintro ⟨index, computed, later, written, done⟩
        cases done
        exact ⟨_, later, ⟨index, computed, rfl⟩, written, rfl⟩
      · rintro ⟨_, later, ⟨index, computed, rfl⟩, written, rfl⟩
        exact ⟨index, computed, later, written, rfl⟩

theorem storedAs_nil : StoredAs env root place [] [] :=
  ⟨rfl, fun _ _ _ present => by cases present⟩

theorem storedAs_cons {step : PathStep} {steps : List PathStep} {done : StoredStep}
    {stored : List StoredStep} :
    StoredAs env root place (step :: steps) (done :: stored) ↔
      done.Stores env root place.content step ∧
        StoredAs env root (place.behind done) steps stored := by
  -- the contents from the second step on are those of a path that starts behind the first
  constructor
  · rintro ⟨length, each⟩
    refine ⟨each 0 step done rfl rfl, Nat.succ.inj length, ?_⟩
    intro k later laterDone present presentDone
    exact each (k + 1) later laterDone present presentDone
  · rintro ⟨here, length, each⟩
    refine ⟨congrArg Nat.succ length, ?_⟩
    intro k later laterDone present presentDone
    cases k with
    | zero =>
        cases present
        cases presentDone
        exact here
    | succ k => exact each k later laterDone present presentDone

theorem storedText_cons {done : StoredStep} {stored : List StoredStep} (present : stored ≠ []) :
    "/".intercalate ((done :: stored).map StoredStep.text) =
      done.text ++ "/" ++ "/".intercalate (stored.map StoredStep.text) := by
  have texts : stored.map StoredStep.text ≠ [] := by simpa using present
  rw [List.map_cons, String.intercalate_cons_of_ne_nil texts]

theorem StoredAs.text_cons {next : PathStep} {steps : List PathStep} {stored : List StoredStep}
    {done : StoredStep} (along : StoredAs env root place (next :: steps) stored) :
    "/".intercalate ((done :: stored).map StoredStep.text) =
      done.text ++ "/" ++ "/".intercalate (stored.map StoredStep.text) := by
  apply storedText_cons
  rintro rfl
  cases along.length

theorem storageSteps_eq_ok (steps : List PathStep) (present : steps ≠ []) :
    storageSteps env whole root place.content place.known (steps.flatMap PathStep.parts) =
        .ok text ↔
      ∃ stored, StoredAs env root place steps stored ∧
        text = "/".intercalate (stored.map StoredStep.text) := by
  induction steps generalizing place text with
  | nil => exact absurd rfl present
  | cons step steps ih =>
      cases steps with
      | nil =>
          rw [List.flatMap_cons, List.flatMap_nil, List.append_nil, storageSteps_lastStep]
          constructor
          · rintro ⟨done, stores, rfl⟩
            exact ⟨[done], storedAs_cons.mpr ⟨stores, storedAs_nil⟩,
              String.intercalate_singleton.symm⟩
          · rintro ⟨stored, along, rfl⟩
            obtain ⟨done, rfl⟩ := List.length_eq_one_iff.mp along.length
            exact ⟨done, (storedAs_cons.mp along).1, String.intercalate_singleton⟩
      | cons next steps =>
          have first : (next :: steps).flatMap PathStep.parts = .segment next.segment ::
              (next.bracket.toList.map .expr ++ steps.flatMap PathStep.parts) := rfl
          rw [List.flatMap_cons, first, storageSteps_step]
          constructor
          · rintro ⟨done, later, stores, written, rfl⟩
            obtain ⟨stored, along, rfl⟩ := (ih (List.cons_ne_nil _ _)).mp written
            exact ⟨done :: stored, storedAs_cons.mpr ⟨stores, along⟩, along.text_cons.symm⟩
          · rintro ⟨stored, along, rfl⟩
            obtain ⟨done, stored, rfl⟩ := List.exists_cons_of_length_eq_add_one along.length
            obtain ⟨stores, along⟩ := storedAs_cons.mp along
            exact ⟨done, _, stores, (ih (List.cons_ne_nil _ _)).mpr ⟨stored, along, rfl⟩,
              along.text_cons⟩

end Steps

/-- A path of segments and brackets can be stored just when each bracket is an index in the content
that encloses its step: the value that the steps before it lead to, as far as they exist. The
storage path is then the sequence of its steps, without root marks and with their indexes. -/
theorem storage_path_along_values (env : Env) (content : Content) (steps : List PathStep)
    (text : String) :
    (Expr.path (steps.flatMap PathStep.parts)).storagePath env content = .ok text ↔
      steps ≠ [] ∧ ∃ stored, StoredAs env content ⟨content, true⟩ steps stored ∧
        text = "/".intercalate (stored.map StoredStep.text) := by
  constructor
  · intro written
    have present : steps ≠ [] := by
      rintro rfl
      cases written
    exact ⟨present, (storageSteps_eq_ok steps present).mp written⟩
  · rintro ⟨present, stored⟩
    exact (storageSteps_eq_ok steps present).mpr stored

def vessel : Content :=
  .map [("chosen", .integer 0),
    ("ship", .object [("chosen", .integer 1),
      ("decks", .array [.object [("chosen", .integer 2)], .object [("chosen", .integer 3)]])])]

/-- The steps of `/ship/decks[chosen]/cabins[chosen]/bunks[chosen]`. -/
def chosenBunk : List PathStep :=
  [⟨"/ship", none⟩, ⟨"decks", some (.path [.segment "chosen"])⟩,
    ⟨"cabins", some (.path [.segment "chosen"])⟩, ⟨"bunks", some (.path [.segment "chosen"])⟩]

/-- The ship chooses the deck. The deck has no cabins, so it chooses the cabin and the bunk. -/
theorem storage_path_along_values_chosenBunk :
    StoredAs .standard vessel ⟨vessel, true⟩ chosenBunk
        [⟨"ship", none⟩, ⟨"decks", some 1⟩, ⟨"cabins", some 3⟩, ⟨"bunks", some 3⟩] ∧
      (Expr.path (chosenBunk.flatMap PathStep.parts)).storagePath .standard vessel =
        .ok "ship/decks[1]/cabins[3]/bunks[3]" := by
  have index (content : Content) (index : Int64) (nonnegative : 0 ≤ index)
      (chosen : content.read "chosen" = .integer index) :
      (Expr.path [.segment "chosen"]).StandsFor .standard vessel content index :=
    ⟨rfl, ⟨_, congrArg Except.ok chosen, .integer index⟩, nonnegative⟩
  have along : StoredAs .standard vessel ⟨vessel, true⟩ chosenBunk
      [⟨"ship", none⟩, ⟨"decks", some 1⟩, ⟨"cabins", some 3⟩, ⟨"bunks", some 3⟩] := by
    refine storedAs_cons.mpr ⟨⟨rfl, .none⟩, ?_⟩
    refine storedAs_cons.mpr ⟨⟨rfl, .some (index _ _ (by decide) rfl)⟩, ?_⟩
    refine storedAs_cons.mpr ⟨⟨rfl, .some (index _ _ (by decide) rfl)⟩, ?_⟩
    exact storedAs_cons.mpr ⟨⟨rfl, .some (index _ _ (by decide) rfl)⟩, storedAs_nil⟩
  exact ⟨along, (storage_path_along_values .standard vessel chosenBunk _).mpr
    ⟨List.cons_ne_nil _ _, _, along, rfl⟩⟩

end TypedPath
