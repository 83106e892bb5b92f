import TypedPath.Eval.StoragePath
import TypedPath.Proofs.PathEval
import TypedPath.Proofs.Shape

/-! The indexes that a storage path writes and those that reading the path takes. A storage path
computes an index against the content that encloses the collection, reading computes it where the
path starts; the two lead to one place when these agree. -/

namespace TypedPath

def withIndexes : List Part → List Int64 → List Part
  | [], _ => []
  | .expr _ :: parts, index :: indexes =>
    .expr (.literal [.literal (.integer index)]) :: withIndexes parts indexes
  | part :: parts, indexes => part :: withIndexes parts indexes

def storedAt (content : Content) (known : Bool) (name : String) : Option Value :=
  if known then content.get? (storedName name) else none

def enclosingAfter (content : Content) (stored : Option Value) : Content × Bool :=
  match storedContent? stored with
  | some inner => (inner, true)
  | none => (content, false)

/-- A bracket of a path, and the content against which a storage path computes its index. -/
structure IndexPlace where
  bracket : Expr
  enclosing : Content

def IndexPlace.written (env : Env) (root : Content) (place : IndexPlace) : Option Int64 :=
  (storageIndex env root place.enclosing place.bracket).toOption

def Expr.indexIn (env : Env) (frame : Frame) (bracket : Expr) : Option Int64 :=
  (bracket.eval env frame).toOption.bind Value.index?

def IndexPlace.taken (env : Env) (root : Content) (place : IndexPlace) : Option Int64 :=
  place.bracket.indexIn env (.start root)

def brackets : List Part → List Expr
  | [] => []
  | .expr bracket :: rest => bracket :: brackets rest
  | _ :: rest => brackets rest

def indexPlaces (env : Env) (root content : Content) (known : Bool) : List Part → List IndexPlace
  | .segment name :: .expr bracket :: rest =>
    let item := (storageIndex env root content bracket).toOption.bind
      (storedItem? (storedAt content known name))
    let behind := enclosingAfter content item
    ⟨bracket, content⟩ :: indexPlaces env root behind.1 behind.2 rest
  | .segment name :: rest =>
    let behind := enclosingAfter content (storedAt content known name)
    indexPlaces env root behind.1 behind.2 rest
  | .expr bracket :: rest => ⟨bracket, content⟩ :: indexPlaces env root content known rest
  | _ :: rest => indexPlaces env root content known rest
  | [] => []

variable {env : Env} {whole : List Part} {root content : Content} {known : Bool} {name : String}
  {bracket : Expr} {next : Part} {rest : List Part}

theorem storageSteps_lastBracket :
    storageSteps env whole root content known [.segment name, .expr bracket] = (do
      let index ← storageIndex env root content bracket
      return storedName name ++ "[" ++ toString index.toInt ++ "]") := rfl

theorem storageSteps_bracketed :
    storageSteps env whole root content known (.segment name :: .expr bracket :: next :: rest) = (do
      let index ← storageIndex env root content bracket
      let behind := enclosingAfter content (storedItem? (storedAt content known name) index)
      let later ← storageSteps env whole root behind.1 behind.2 (next :: rest)
      return storedName name ++ "[" ++ toString index.toInt ++ "]" ++ "/" ++ later) := by
  rw [storageSteps]
  congr 1
  funext index
  unfold enclosingAfter storedAt
  cases storedContent? (storedItem? (if known then content.get? (storedName name) else none) index)
    <;> rfl

theorem storageSteps_plain {after : String} :
    storageSteps env whole root content known (.segment name :: .segment after :: rest) = (do
      let behind := enclosingAfter content (storedAt content known name)
      let later ← storageSteps env whole root behind.1 behind.2 (.segment after :: rest)
      return storedName name ++ "/" ++ later) := by
  rw [storageSteps]
  unfold enclosingAfter storedAt
  cases storedContent? (if known then content.get? (storedName name) else none) <;> rfl

theorem storedName_unmarked (bare : unmark? rootMark name = none) : storedName name = name := by
  simp [storedName, bare]

theorem storedName_plain (plain : PlainName name) : storedName name = name :=
  storedName_unmarked plain.1

theorem indexPlaces_brackets (env : Env) (root content : Content) (known : Bool)
    (parts : List Part) :
    (indexPlaces env root content known parts).map IndexPlace.bracket = brackets parts := by
  fun_induction indexPlaces env root content known parts with
  | case1 content known name bracket rest item behind ih => simp [brackets, ih]
  | case2 content known name rest _ behind ih => simp [brackets, ih]
  | case3 content known bracket rest ih => simp [brackets, ih]
  | case4 content known part rest _ notSegment notBracket ih =>
      rw [brackets, ih]
      exact notBracket
  | case5 content known => rfl

theorem toOption_eq_some {ε α : Type} {result : Except ε α} {value : α} :
    result.toOption = some value ↔ result = .ok value := by
  cases result <;> simp [Except.toOption]

theorem withIndexes_segment (name : String) (rest : List Part) (indexes : List Int64) :
    withIndexes (.segment name :: rest) indexes = .segment name :: withIndexes rest indexes := by
  simp [withIndexes]

theorem pathText_first (name : String) (rest : List Part) :
    pathText true (.segment name :: rest) = name ++ pathText false rest := by
  simp [pathText, Part.text]

theorem pathText_later (name : String) (rest : List Part) :
    pathText false (.segment name :: rest) = "/" ++ pathText true (.segment name :: rest) := by
  simp [pathText, Part.text, String.append_assoc]

theorem pathText_index (index : Int64) (rest : List Part) :
    pathText false (.expr (.literal [.literal (.integer index)]) :: rest) =
      "[" ++ toString index.toInt ++ "]" ++ pathText false rest := by
  simp [pathText, Expr.text, partTexts, Part.text, Literal.text]

theorem segment_of_stored {parts : List Part} {text : String}
    (stored : storageSteps env whole root content known parts = .ok text) :
    ∃ name rest, parts = .segment name :: rest := by
  cases parts with
  | nil => cases stored
  | cons part rest =>
      cases part with
      | segment name => exact ⟨name, rest, rfl⟩
      | literal | null | operator | method | expr => cases stored

theorem next_segment_of_stored {text : String} (step : ∀ bracket, next ≠ .expr bracket)
    (stored : storageSteps env whole root content known (.segment name :: next :: rest) =
      .ok text) :
    ∃ after, next = .segment after := by
  cases next with
  | segment after => exact ⟨after, rfl⟩
  | expr bracket => exact absurd rfl (step bracket)
  | literal | null | operator | method => cases stored

theorem storageSteps_written (parts : List Part) (plain : PlainSegments parts) (content : Content)
    (known : Bool) (text : String)
    (stored : storageSteps env whole root content known parts = .ok text) :
    ∃ written : List Int64,
      (indexPlaces env root content known parts).map (·.written env root) = written.map some ∧
      text = pathText true (withIndexes parts written) := by
  induction parts using steps_induction generalizing content known text with
  | nil => cases stored
  | last name =>
      cases stored
      refine ⟨[], rfl, ?_⟩
      rw [withIndexes_segment, pathText_first, storedName_plain plain.head]
      simp [withIndexes, pathText]
  | lastBracket name bracket =>
      rw [storageSteps_lastBracket] at stored
      obtain ⟨index, computed, done⟩ := except_bind_eq_ok.mp stored
      cases done
      refine ⟨[index], ?_, ?_⟩
      · simp [indexPlaces, IndexPlace.written, toOption_eq_some, computed]
      · rw [withIndexes_segment, withIndexes, pathText_first, pathText_index,
          storedName_plain plain.head]
        simp [withIndexes, pathText, String.append_assoc]
  | bracketed name bracket next rest ih =>
      rw [storageSteps_bracketed] at stored
      obtain ⟨index, computed, stored⟩ := except_bind_eq_ok.mp stored
      obtain ⟨later, storedLater, done⟩ := except_bind_eq_ok.mp stored
      cases done
      obtain ⟨written, places, same⟩ := ih plain.tail.tail _ _ _ storedLater
      -- the slash before the rest is that of a segment, as no other part can stand there
      obtain ⟨after, steps, split⟩ := segment_of_stored storedLater
      refine ⟨index :: written, ?_, ?_⟩
      · have behind : (storageIndex env root content bracket).toOption = some index :=
          toOption_eq_some.mpr computed
        rw [indexPlaces, List.map_cons, List.map_cons, ← places]
        simp [IndexPlace.written, behind]
      · rw [withIndexes_segment, withIndexes, pathText_first, pathText_index,
          storedName_plain plain.head, same, split, withIndexes_segment, pathText_later]
        simp only [String.append_assoc]
  | plain name next rest step ih =>
      obtain ⟨after, rfl⟩ := next_segment_of_stored step stored
      rw [storageSteps_plain] at stored
      obtain ⟨later, storedLater, done⟩ := except_bind_eq_ok.mp stored
      cases done
      obtain ⟨written, places, same⟩ := ih plain.tail _ _ _ storedLater
      refine ⟨written, ?_, ?_⟩
      · rw [← places, indexPlaces]
        simp
      · rw [withIndexes_segment, pathText_first, storedName_plain plain.head, same,
          withIndexes_segment, pathText_later]
        simp only [String.append_assoc]
  | other part rest step =>
      obtain ⟨name, steps, split⟩ := segment_of_stored stored
      cases split
      exact absurd rfl (step name)

theorem Value.item_integer {value position : Value} {index : Int64}
    (stands : position.index? = some index) :
    value.item position = value.item (.integer index) := by
  unfold Value.item
  rw [stands]
  rfl

theorem Value.index_of_item {value position item : Value}
    (done : value.item position = .ok item) : ∃ index, position.index? = some index := by
  unfold Value.item at done
  split at done
  · cases done
  · rename_i index stands
    exact ⟨index, stands⟩

/-- Reading a path without filters is reading it with the indexes that its brackets stand for. -/
theorem evalSteps_taken {frame : Frame} (parts : List Part)
    (single : ∀ bracket ∈ brackets parts, bracket.isCondition = false) (value result : Value)
    (done : evalSteps env frame value parts = .ok result) :
    ∃ taken : List Int64, (brackets parts).map (·.indexIn env frame) = taken.map some ∧
      evalSteps env frame value (withIndexes parts taken) = .ok result := by
  induction parts generalizing value with
  | nil => exact ⟨[], rfl, done⟩
  | cons part parts ih =>
      cases part with
      | segment name =>
          obtain ⟨taken, indexes, read⟩ := ih single (value.select name) done
          refine ⟨taken, indexes, ?_⟩
          rw [withIndexes_segment, evalSteps]
          exact read
      | expr bracket =>
          rw [brackets] at single ⊢
          rw [evalSteps_index (single bracket List.mem_cons_self)] at done
          obtain ⟨position, evaluated, done⟩ := except_bind_eq_ok.mp done
          obtain ⟨item, found, done⟩ := except_bind_eq_ok.mp done
          obtain ⟨index, stands⟩ := Value.index_of_item found
          obtain ⟨taken, indexes, read⟩ :=
            ih (fun inner member => single inner (List.mem_cons_of_mem _ member)) item done
          refine ⟨index :: taken, ?_, ?_⟩
          · have here : bracket.indexIn env frame = some index := by
              simp [Expr.indexIn, evaluated, Except.toOption, stands]
            rw [List.map_cons, List.map_cons, here, indexes]
          · rw [withIndexes, evalSteps_index rfl]
            rw [Value.item_integer stands] at found
            exact except_bind_eq_ok.mpr ⟨.integer index, rfl,
              except_bind_eq_ok.mpr ⟨item, found, read⟩⟩
      | literal | null | operator | method => cases done

theorem IndexPlace.single_of_written {place : IndexPlace} {index : Int64}
    (computed : place.written env root = some index) : place.bracket.isCondition = false := by
  have stored := toOption_eq_some.mp computed
  cases form : place.bracket.isCondition with
  | false => rfl
  | true => simp [storageIndex, form] at stored

theorem brackets_single {parts : List Part} {written : List Int64}
    (computed : (indexPlaces env root content known parts).map (·.written env root) =
      written.map some) :
    ∀ bracket ∈ brackets parts, bracket.isCondition = false := by
  intro bracket member
  rw [← indexPlaces_brackets env root content known, List.mem_map] at member
  obtain ⟨place, present, rfl⟩ := member
  have image : place.written env root ∈ written.map some := by
    rw [← computed]
    exact List.mem_map_of_mem present
  obtain ⟨index, _, same⟩ := List.mem_map.mp image
  exact IndexPlace.single_of_written same.symm

theorem evaluate_taken {parts : List Part} {value : Value} (plain : PlainSegments parts)
    (single : ∀ bracket ∈ brackets parts, bracket.isCondition = false)
    (read : (Expr.path parts).evaluate env root = .ok value) :
    ∃ taken : List Int64,
      (brackets parts).map (·.indexIn env (.start root)) = taken.map some ∧
      (Expr.path (withIndexes parts taken)).evaluate env root = .ok value := by
  cases parts with
  | nil => cases read
  | cons part steps =>
      cases part with
      | segment name =>
          rw [Expr.evaluate, eval_path_plain plain.head] at read
          obtain ⟨taken, indexes, read⟩ := evalSteps_taken steps single _ _ read
          refine ⟨taken, indexes, ?_⟩
          rw [withIndexes_segment, Expr.evaluate, eval_path_plain plain.head]
          exact read
      | literal | null | operator | method | expr => cases read

/-- A path that can be stored and read is stored under the indexes that its brackets have in the
contents that enclose them, and read at those that they have at its start. Reading the path as it is
stored gives the same value whenever each bracket has one index in both. -/
theorem stored_path_reads_same (env : Env) (content : Content) (parts : List Part) (text : String)
    (value : Value) (plain : PlainSegments parts)
    (stored : (Expr.path parts).storagePath env content = .ok text)
    (read : (Expr.path parts).evaluate env content = .ok value) :
    ∃ written taken : List Int64,
      (indexPlaces env content content true parts).map (·.written env content) =
        written.map some ∧
      (indexPlaces env content content true parts).map (·.taken env content) = taken.map some ∧
      text = (Expr.path (withIndexes parts written)).text ∧
      (Expr.path (withIndexes parts taken)).evaluate env content = .ok value ∧
      ((∀ place ∈ indexPlaces env content content true parts,
          place.written env content = place.taken env content) →
        (Expr.path (withIndexes parts written)).evaluate env content = .ok value) := by
  obtain ⟨written, computed, same⟩ := storageSteps_written parts plain content true text stored
  obtain ⟨taken, indexes, reread⟩ := evaluate_taken plain (brackets_single computed) read
  have takenAt : (indexPlaces env content content true parts).map (·.taken env content) =
      taken.map some := by
    rw [← indexes, ← indexPlaces_brackets env content content true parts, List.map_map]
    rfl
  refine ⟨written, taken, computed, takenAt, ?_, reread, ?_⟩
  · rw [same, Expr.text]
  · intro agree
    have indexesAgree : written = taken := by
      rw [← List.map_inj_left, computed, takenAt] at agree
      exact (List.map_inj_right fun _ _ equal => Option.some.inj equal).mp agree
    rw [indexesAgree]
    exact reread

/-- The drawer that is chosen: `cabinet/drawers[chosen]`. -/
def chosenDrawer : List Part :=
  [.segment "cabinet", .segment "drawers", .expr (.path [.segment "chosen"])]

def office (chosen : Int64) : Content :=
  .map [("cabinet", .object [("chosen", .integer 1),
    ("drawers", .array [.string "left", .string "right"])]), ("chosen", .integer chosen)]

theorem chosenDrawer_plain : PlainSegments chosenDrawer := by
  intro name member
  simp only [chosenDrawer, List.mem_cons, Part.segment.injEq, List.not_mem_nil, reduceCtorEq,
    or_false] at member
  rcases member with rfl | rfl <;> decide

theorem stored_path_reads_same_office :
    PlainSegments chosenDrawer ∧
      (Expr.path chosenDrawer).storagePath .standard (office 1) = .ok "cabinet/drawers[1]" ∧
      (Expr.path chosenDrawer).evaluate .standard (office 1) = .ok (.string "right") ∧
      ∃ written : List Int64, "cabinet/drawers[1]" =
          (Expr.path (withIndexes chosenDrawer written)).text ∧
        (Expr.path (withIndexes chosenDrawer written)).evaluate .standard (office 1) =
          .ok (.string "right") := by
  refine ⟨chosenDrawer_plain, rfl, rfl, ?_⟩
  obtain ⟨written, taken, _, _, text, _, reread⟩ := stored_path_reads_same .standard (office 1)
    chosenDrawer "cabinet/drawers[1]" (.string "right") chosenDrawer_plain rfl rfl
  refine ⟨written, text, reread ?_⟩
  intro place member
  rw [List.mem_singleton.mp member]
  rfl

/-- Where the office chooses another drawer than the cabinet, the path is stored under the choice of
the cabinet and read at that of the office. -/
theorem stored_path_reads_other :
    (Expr.path chosenDrawer).storagePath .standard (office 0) = .ok "cabinet/drawers[1]" ∧
      (Expr.path chosenDrawer).evaluate .standard (office 0) = .ok (.string "left") ∧
      (Expr.path (withIndexes chosenDrawer [1])).text = "cabinet/drawers[1]" ∧
      (Expr.path (withIndexes chosenDrawer [1])).evaluate .standard (office 0) =
        .ok (.string "right") :=
  ⟨rfl, rfl, rfl, rfl⟩

end TypedPath
