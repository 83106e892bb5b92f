import TypedPath.Proofs.Conformance
import TypedPath.Proofs.PathEval
import TypedPath.Proofs.Steps
import TypedPath.Query

/-! The values of a path have the type that the path is given: typing and evaluation take the same
steps, and each step keeps the leaves of the value within the type reached so far. -/

namespace TypedPath

open ScopeM

theorem leavesConform_mono {value other : Value} {ty : Ty} (conform : value.LeavesConform ty)
    (within : ∀ leaf ∈ other.leaves, leaf ∈ value.leaves) : other.LeavesConform ty :=
  fun leaf member => conform leaf (within leaf member)

theorem filterItems_leaves (value : Value) : leavesOf value.filterItems = value.leaves := by
  cases value <;> simp [Value.filterItems, Value.leaves, leavesOf]

theorem evalSteps_bracket_leaves {env : Env} {frame : Frame} {value result : Value} {bracket : Expr}
    {steps : List Part} (done : evalSteps env frame value (.expr bracket :: steps) = .ok result) :
    ∃ inner : Value, (∀ leaf ∈ inner.leaves, leaf ∈ value.leaves) ∧
      evalSteps env frame inner steps = .ok result := by
  rcases evalSteps_bracket done with ⟨kept, filtered, done⟩ | ⟨position, item, _, taken, done⟩
  · refine ⟨.array kept, ?_, done⟩
    intro leaf member
    obtain ⟨item, present, inner⟩ := (mem_leavesOf kept leaf).mp member
    rw [← filterItems_leaves, mem_leavesOf]
    exact ⟨item, (keepItems_sublist filtered).subset present, inner⟩
  · refine ⟨item, ?_, done⟩
    intro leaf member
    rcases Value.item_eq_ok taken with rfl | ⟨items, rfl, present⟩
    · cases member
    · exact (mem_leavesOf items leaf).mpr ⟨item, present, member⟩

theorem Referent.ofSegment_plain {name : String} (plain : PlainName name) (first : Bool)
    (schema : Record) (scope : Scope) :
    Referent.ofSegment name first (some schema) scope = Referent.ofRecord schema name := by
  unfold Referent.ofSegment
  simp only [plain.1, plain.2.1, plain.2.2, if_false, Option.map_none]
  cases Referent.ofRecord schema name <;> rfl

theorem Referent.ofRecord_found {schema : Record} {name : String} {field : Field}
    (found : Referent.ofRecord schema name = .found field) :
    schema.unmodeled = false ∧ schema.field? name = some field := by
  unfold Referent.ofRecord at found
  split at found
  · cases found
  · rename_i modeled
    split at found
    · cases found
      exact ⟨by simpa using modeled, by assumption⟩
    · cases found

variable {schema : Record} {name : String} {field : Field}

theorem getD_holds {fields : List (String × Value)} (found : schema.field? name = some field)
    (conform : fieldsConform schema fields = true) :
    field.holds ((lookupField name fields).getD .null) = true := by
  cases set : lookupField name fields with
  | none => rfl
  | some value => exact holds_of_fieldsConform conform set found

theorem select_holds {value : Value} (plain : PlainName name)
    (referent : Referent.ofRecord schema name = .found field)
    (conforms : value.conforms (.record schema) = true) :
    field.holds (value.select name) = true := by
  obtain ⟨modeled, found⟩ := Referent.ofRecord_found referent
  cases value with
  | object fields | record own fields =>
      have conform : fieldsConform schema fields = true := by
        simpa [Value.conforms, modeled] using conforms
      rw [Value.select, Content.read_plain plain]
      exact getD_holds found conform
  | null | boolean | float | integer | string | array => simp [Value.conforms] at conforms

theorem select_leavesConform {value : Value} (plain : PlainName name)
    (flat : schema.isFlat = true) (referent : Referent.ofRecord schema name = .found field)
    (conform : value.LeavesConform (.record schema)) :
    (value.select name).LeavesConform field.ty := by
  intro leaf member
  rw [Value.leaves_select, List.mem_flatMap] at member
  obtain ⟨origin, present, inner⟩ := member
  have fieldFlat := Record.field_isFlat flat (Referent.ofRecord_found referent).2
  have holds := select_holds plain referent (conform origin present)
  exact leaves_of_holds fieldFlat holds leaf inner

theorem record_isFlat (flat : schema.isFlat = true)
    (referent : Referent.ofRecord schema name = .found field) {inner : Record}
    (shape : field.ty = .record inner) : inner.isFlat = true := by
  have fieldFlat := Record.field_isFlat flat (Referent.ofRecord_found referent).2
  rw [shape] at fieldFlat
  simpa only [Ty.isFlat] using fieldFlat

theorem object_leavesConform (value : Value) : value.LeavesConform (.scalar .object) :=
  fun leaf _ => leaf.conforms_object

theorem field_of_typed {env : Env} {whole rest : List Part} {first : Bool}
    {strategy : Option Strategy} {scope after : Scope} {typing : Typing} (plain : PlainName name)
    (typed : inferPath env whole first (some schema) strategy (.segment name :: rest) scope =
      .ok typing after) (known : typing.ty ≠ .scalar .object) :
    ∃ field, Referent.ofRecord schema name = .found field ∧
      Referent.ofSegment name first (some schema) scope = .found field := by
  have same := Referent.ofSegment_plain plain first schema scope
  rcases referent_of_typed typed with ⟨_, rfl⟩ | ⟨field, found⟩
  · exact absurd rfl known
  · exact ⟨field, same.symm.trans found, found⟩

theorem leavesConform_of_field {env : Env} {whole rest : List Part} {first : Bool}
    {strategy : Option Strategy} {scope after : Scope} {typing : Typing} {result : Value}
    (plain : PlainName name)
    (typed : inferPath env whole first (some schema) strategy (.segment name :: rest) scope =
      .ok typing after)
    (behind : ∀ field, Referent.ofRecord schema name = .found field →
      Referent.ofSegment name first (some schema) scope = .found field →
      result.LeavesConform typing.ty) :
    result.LeavesConform typing.ty := by
  by_cases known : typing.ty = .scalar .object
  · rw [known]
    exact object_leavesConform result
  · obtain ⟨field, referent, found⟩ := field_of_typed plain typed known
    exact behind field referent found

theorem object_of_scalar {env : Env} {context : Option Record} {bracket : Expr} {cls : ValueClass}
    {strategy : Typing → Option Strategy} {failure : Failure} {scope after : Scope}
    {typing : Typing}
    (typed : (do
      let inner ← bracket.infer env context
      if cls.isUnconstrained then return ⟨.scalar .object, strategy inner⟩
      else throw failure : ScopeM Typing) scope = .ok typing after) :
    typing.ty = .scalar .object := by
  obtain ⟨inner, middle, _, typed⟩ := bind_eq_ok.mp typed
  split at typed
  · obtain ⟨rfl, _⟩ := pure_eq_ok.mp typed
    rfl
  · cases typed

/-- A path that is typed from a record on leads from leaves of the record to leaves of its type. -/
theorem evalSteps_leavesConform (env : Env) (whole parts : List Part) (frame : Frame)
    (plain : PlainSegments parts) (first : Bool) (schema : Record) (flat : schema.isFlat = true)
    (strategy : Option Strategy) (scope after : Scope) (typing : Typing)
    (typed : inferPath env whole first (some schema) strategy parts scope = .ok typing after)
    (value result : Value) (conform : value.LeavesConform (.record schema))
    (evaluated : evalSteps env frame value parts = .ok result) :
    result.LeavesConform typing.ty := by
  -- Brackets are typed against the record of their field but evaluated where the path starts, so
  -- nothing is asked of what they give: filter or index, the leaves stay among those of the field.
  induction parts using steps_induction
    generalizing first schema strategy scope after typing value result with
  | nil => cases typed
  | last name =>
      refine leavesConform_of_field plain.head typed fun field referent found => ?_
      rw [inferPath_last found] at typed
      cases typed
      cases evaluated
      exact select_leavesConform plain.head flat referent conform
  | lastBracket name bracket =>
      refine leavesConform_of_field plain.head typed fun field referent found => ?_
      have selected := select_leavesConform plain.head flat referent conform
      rw [inferPath_lastBracket found] at typed
      obtain ⟨inner, middle, _, typed⟩ := bind_eq_ok.mp typed
      obtain ⟨rfl, _⟩ := pure_eq_ok.mp typed
      rw [evalSteps] at evaluated
      obtain ⟨kept, within, evaluated⟩ := evalSteps_bracket_leaves evaluated
      cases evaluated
      exact leavesConform_mono selected within
  | bracketed name bracket next rest ih =>
      refine leavesConform_of_field plain.head typed fun field referent found => ?_
      have selected := select_leavesConform plain.head flat referent conform
      cases shape : field.ty with
      | record inner =>
          rw [inferPath_bracketed_record found shape] at typed
          obtain ⟨bracketTyping, middle, _, typed⟩ := bind_eq_ok.mp typed
          rw [evalSteps] at evaluated
          obtain ⟨kept, within, evaluated⟩ := evalSteps_bracket_leaves evaluated
          rw [shape] at selected
          exact ih plain.tail.tail _ inner (record_isFlat flat referent shape) _ _ _ _ typed kept _
            (leavesConform_mono selected within) evaluated
      | scalar cls =>
          rw [inferPath_bracketed_scalar found shape] at typed
          rw [object_of_scalar typed]
          exact object_leavesConform result
  | plain name next rest step ih =>
      refine leavesConform_of_field plain.head typed fun field referent found => ?_
      have selected := select_leavesConform plain.head flat referent conform
      cases shape : field.ty with
      | record inner =>
          rw [inferPath_plain_record step found shape] at typed
          rw [evalSteps] at evaluated
          rw [shape] at selected
          exact ih plain.tail _ inner (record_isFlat flat referent shape) _ _ _ _ typed _ _ selected
            evaluated
      | scalar cls =>
          rw [inferPath_plain_scalar step found shape] at typed
          split at typed
          · cases typed
            exact object_leavesConform result
          · cases typed
  | other part rest step =>
      rw [inferPath_other step] at typed
      cases typed

theorem typing_path {env : Env} {root : Option Record} {parts : List Part} {typing : Typing}
    (typed : (Expr.path parts).typing env root = .ok typing) :
    ∃ scope after, inferPath env parts true root none parts scope = .ok typing after := by
  obtain ⟨after, run⟩ := ScopeM.runFrom_eq_ok.mp typed
  obtain ⟨_, last, run⟩ := Expr.steps_of_typed run
  exact ⟨_, last, run⟩

theorem evaluate_path_plain {env : Env} {content : Content} {parts : List Part} {value : Value}
    (plain : PlainSegments parts) (evaluated : (Expr.path parts).evaluate env content = .ok value) :
    evalSteps env (.start content) content.toValue parts = .ok value := by
  cases parts with
  | nil => cases evaluated
  | cons part steps =>
      cases part with
      | segment name =>
          rw [Expr.evaluate, eval_path_plain plain.head] at evaluated
          rw [evalSteps, content.select_toValue]
          exact evaluated
      | literal | null | operator | method | expr => cases evaluated

/-- What a path of plain names gives on an instance of a record is of the type that the path has
against that record: each leaf of the value conforms to it. -/
theorem path_leaves_conform (env : Env) (schema : Record) (content : Content) (parts : List Part)
    (typing : Typing) (value : Value) (flat : schema.isFlat = true)
    (fits : content.isInstanceOf schema = true) (plain : PlainSegments parts)
    (typed : (Expr.path parts).typing env (some schema) = .ok typing)
    (evaluated : (Expr.path parts).evaluate env content = .ok value) :
    ∀ leaf ∈ value.leaves, leaf.conforms typing.ty = true := by
  obtain ⟨scope, after, inferred⟩ := typing_path typed
  have start : content.toValue.LeavesConform (.record schema) :=
    leaves_of_conforms (by simpa only [Ty.isFlat] using flat) fits
  exact evalSteps_leavesConform env parts parts _ plain true schema flat none scope after typing
    inferred _ _ start (evaluate_path_plain plain evaluated)

/-- The weights of some parcels in the last box: `boxes[-1]/parcels[fragile = true]/weight`. -/
def fragileWeights : List Part :=
  [.segment "boxes", .expr (.literal [.literal (.integer (-1))]), .segment "parcels",
    .expr (.operator [.expr (.path [.segment "fragile"]), .operator .equals,
      .literal (.boolean true)]), .segment "weight"]

def deliverySchema : Record :=
  ⟨"Delivery", [⟨"boxes", .record ⟨"Box", [⟨"parcels", .record ⟨"Parcel",
    [⟨"fragile", .scalar .boolean, false, none⟩, ⟨"weight", .scalar .number, false, none⟩], false⟩,
    true, none⟩], false⟩, true, none⟩], false⟩

def delivery : Content :=
  .map [("boxes", .array [.object [], .object [("parcels", .array [
    .object [("fragile", .boolean true), ("weight", .integer 4)],
    .object [("fragile", .null), ("weight", .integer 7)],
    .record ⟨"Parcel", [], true⟩ [("weight", .integer 2), ("fragile", .boolean true)]])]])]

theorem fragileWeights_plain : PlainSegments fragileWeights := by
  intro name member
  simp only [fragileWeights, List.mem_cons, Part.segment.injEq, List.not_mem_nil, reduceCtorEq,
    false_or, or_false] at member
  rcases member with rfl | rfl | rfl <;> decide

theorem path_leaves_conform_fragileWeights :
    deliverySchema.isFlat = true ∧ delivery.isInstanceOf deliverySchema = true ∧
      PlainSegments fragileWeights ∧
      (Expr.path fragileWeights).typing .standard (some deliverySchema) =
        .ok ⟨.scalar .number, some .list⟩ ∧
      (Expr.path fragileWeights).evaluate .standard delivery =
        .ok (.array [.integer 4, .integer 2]) ∧
      ∀ leaf ∈ (Value.array [.integer 4, .integer 2]).leaves,
        leaf.conforms (.scalar .number) = true :=
  ⟨rfl, by decide, fragileWeights_plain, rfl, rfl,
    path_leaves_conform .standard deliverySchema delivery fragileWeights
      ⟨.scalar .number, some .list⟩ _ rfl (by decide) fragileWeights_plain rfl rfl⟩

end TypedPath
