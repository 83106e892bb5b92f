import TypedPath.Proofs.BracketForms
import TypedPath.Proofs.PathValues

/-! A path that is typed as a single value does not give a collection. Whether a path gives many
values is found out from the fields and brackets along it and is never taken back, so each step of a
path without a strategy leads from single values to single values. -/

namespace TypedPath

open ScopeM

def Value.IsSingle (value : Value) (ty : Ty) : Prop :=
  value = .null ∨ value.conforms ty = true

theorem Value.IsSingle.ne_array {value : Value} {ty : Ty} (single : value.IsSingle ty)
    (flat : ty.isFlat = true) (known : ty ≠ .scalar .object) (items : List Value) :
    value ≠ .array items := by
  rintro rfl
  rcases single with null | conforms
  · cases null
  · rw [Value.array_not_conforms flat known] at conforms
    cases conforms

theorem Value.IsSingle.select_holds {value : Value} {schema : Record} {name : String}
    {field : Field} (single : value.IsSingle (.record schema)) (plain : PlainName name)
    (referent : Referent.ofRecord schema name = .found field) :
    field.holds (value.select name) = true := by
  rcases single with rfl | conforms
  · rfl
  · exact TypedPath.select_holds plain referent conforms

theorem Field.single_of_holds {field : Field} {value : Value} (one : field.isList = false)
    (holds : field.holds value = true) : value.IsSingle field.ty := by
  simp only [Field.holds, one, Bool.or_eq_true, beq_iff_eq] at holds
  rcases holds with null | conforms
  · exact .inl (Value.eq_null_of_kind null)
  · exact .inr conforms

theorem Field.item_single {field : Field} {value position item : Value}
    (flat : field.ty.isFlat = true) (known : field.ty ≠ .scalar .object)
    (holds : field.holds value = true) (taken : value.item position = .ok item) :
    item.IsSingle field.ty := by
  rcases Value.item_eq_ok taken with null | ⟨items, rfl, member⟩
  · exact .inl null
  · cases list : field.isList with
    | true =>
        have conform : allConform items field.ty = true := by
          simpa [Field.holds, list, Value.kind, Value.itemsConform] using holds
        exact .inr ((allConform_iff items field.ty).mp conform item member)
    | false => exact absurd rfl ((Field.single_of_holds list holds).ne_array flat known items)

theorem Field.strategyAfter_eq_none {field : Field} {strategy : Option Strategy}
    (single : field.strategyAfter strategy = none) : field.isList = false ∧ strategy = none := by
  unfold Field.strategyAfter at single
  split at single
  · cases single
  · split at single
    · cases single
    · rename_i one
      subst single
      simpa using one

theorem strategyAfterBracket_eq_none {bracket : Expr} {typing : Typing}
    {strategy : Option Strategy} (single : strategyAfterBracket bracket typing strategy = none) :
    bracket.selects typing = false ∧ strategy = none := by
  unfold strategyAfterBracket at single
  split at single
  · cases single
  · rename_i index
    subst single
    simpa using index

theorem strategyAfterPlain_eq_none {field : Field} {strategy : Option Strategy}
    (single : (if field.isList then field.strategyAfter strategy else strategy) = none) :
    field.isList = false ∧ strategy = none := by
  split at single
  · exact Field.strategyAfter_eq_none single
  · rename_i one
    exact ⟨by simpa using one, single⟩

theorem inferPath_keeps_strategy (env : Env) (whole parts : List Part) (first : Bool)
    (context : Option Record) (strategy : Option Strategy) (scope after : Scope) (typing : Typing)
    (typed : inferPath env whole first context strategy parts scope = .ok typing after)
    (single : typing.strategy = none) : strategy = none := by
  induction parts using steps_induction generalizing first context strategy scope with
  | nil => cases typed
  | last name =>
      rcases referent_of_typed typed with ⟨_, rfl⟩ | ⟨field, found⟩
      · exact single
      rw [inferPath_last found] at typed
      cases typed
      exact (Field.strategyAfter_eq_none single).2
  | lastBracket name bracket =>
      rcases referent_of_typed typed with ⟨_, rfl⟩ | ⟨field, found⟩
      · exact single
      rw [inferPath_lastBracket found] at typed
      obtain ⟨inner, middle, _, typed⟩ := bind_eq_ok.mp typed
      obtain ⟨rfl, _⟩ := pure_eq_ok.mp typed
      exact (strategyAfterBracket_eq_none single).2
  | bracketed name bracket next rest ih =>
      rcases referent_of_typed typed with ⟨_, rfl⟩ | ⟨field, found⟩
      · exact single
      cases shape : field.ty with
      | record schema =>
          rw [inferPath_bracketed_record found shape] at typed
          obtain ⟨inner, middle, _, typed⟩ := bind_eq_ok.mp typed
          exact (strategyAfterBracket_eq_none (ih _ _ _ _ typed)).2
      | scalar cls =>
          rw [inferPath_bracketed_scalar found shape] at typed
          obtain ⟨inner, middle, _, typed⟩ := bind_eq_ok.mp typed
          split at typed
          · obtain ⟨rfl, _⟩ := pure_eq_ok.mp typed
            exact (strategyAfterBracket_eq_none single).2
          · cases typed
  | plain name next rest step ih =>
      rcases referent_of_typed typed with ⟨_, rfl⟩ | ⟨field, found⟩
      · exact single
      cases shape : field.ty with
      | record schema =>
          rw [inferPath_plain_record step found shape] at typed
          exact (strategyAfterPlain_eq_none (ih _ _ _ _ typed)).2
      | scalar cls =>
          rw [inferPath_plain_scalar step found shape] at typed
          split at typed
          · cases typed
            exact (strategyAfterPlain_eq_none single).2
          · cases typed
  | other part rest step =>
      rw [inferPath_other step] at typed
      cases typed

theorem evalSteps_bracket_single {env : Env} {frame : Frame} {context : Option Record}
    {bracket : Expr} {scope middle : Scope} {inner : Typing} {strategy : Option Strategy}
    {field : Field} {value result : Value} {steps : List Part} (flat : field.ty.isFlat = true)
    (known : field.ty ≠ .scalar .object)
    (typed : bracket.infer env context scope = .ok inner middle)
    (single : strategyAfterBracket bracket inner strategy = none)
    (holds : field.holds value = true)
    (evaluated : evalSteps env frame value (.expr bracket :: steps) = .ok result) :
    ∃ item : Value, item.IsSingle field.ty ∧ evalSteps env frame item steps = .ok result := by
  have unselecting := (strategyAfterBracket_eq_none single).1
  have index : bracket.isCondition = false := by
    cases form : bracket.isCondition with
    | false => rfl
    | true =>
        rw [selects_of_isCondition form typed] at unselecting
        cases unselecting
  rw [evalSteps_index index] at evaluated
  obtain ⟨position, _, evaluated⟩ := except_bind_eq_ok.mp evaluated
  obtain ⟨item, taken, evaluated⟩ := except_bind_eq_ok.mp evaluated
  exact ⟨item, Field.item_single flat known holds taken, evaluated⟩

theorem evalSteps_single (env : Env) (whole parts : List Part) (frame : Frame)
    (plain : PlainSegments parts) (first : Bool) (schema : Record) (flat : schema.isFlat = true)
    (strategy : Option Strategy) (scope after : Scope) (typing : Typing)
    (typed : inferPath env whole first (some schema) strategy parts scope = .ok typing after)
    (single : typing.strategy = none) (known : typing.ty ≠ .scalar .object)
    (value result : Value) (start : value.IsSingle (.record schema))
    (evaluated : evalSteps env frame value parts = .ok result) :
    typing.ty.isFlat = true ∧ result.IsSingle typing.ty := by
  induction parts using steps_induction generalizing first schema strategy scope value with
  | nil => cases typed
  | last name =>
      obtain ⟨field, referent, found⟩ := field_of_typed plain.head typed known
      have fieldFlat := Record.field_isFlat flat (Referent.ofRecord_found referent).2
      rw [inferPath_last found] at typed
      cases typed
      cases evaluated
      have one := (Field.strategyAfter_eq_none single).1
      exact ⟨fieldFlat, Field.single_of_holds one (start.select_holds plain.head referent)⟩
  | lastBracket name bracket =>
      obtain ⟨field, referent, found⟩ := field_of_typed plain.head typed known
      have fieldFlat := Record.field_isFlat flat (Referent.ofRecord_found referent).2
      rw [inferPath_lastBracket found] at typed
      obtain ⟨inner, middle, typedBracket, typed⟩ := bind_eq_ok.mp typed
      obtain ⟨rfl, _⟩ := pure_eq_ok.mp typed
      rw [evalSteps] at evaluated
      obtain ⟨item, taken, evaluated⟩ := evalSteps_bracket_single fieldFlat known typedBracket
        single (start.select_holds plain.head referent) evaluated
      cases evaluated
      exact ⟨fieldFlat, taken⟩
  | bracketed name bracket next rest ih =>
      obtain ⟨field, referent, found⟩ := field_of_typed plain.head typed known
      have fieldFlat := Record.field_isFlat flat (Referent.ofRecord_found referent).2
      cases shape : field.ty with
      | record inner =>
          rw [inferPath_bracketed_record found shape] at typed
          obtain ⟨bracketTyping, middle, typedBracket, typed⟩ := bind_eq_ok.mp typed
          -- a strategy gained at the bracket would still be there at the end, so it is no filter
          have unselecting := inferPath_keeps_strategy _ _ _ _ _ _ _ _ _ typed single
          rw [evalSteps] at evaluated
          obtain ⟨item, taken, evaluated⟩ := evalSteps_bracket_single fieldFlat (by simp [shape])
            typedBracket unselecting (start.select_holds plain.head referent) evaluated
          rw [shape] at taken
          exact ih plain.tail.tail _ inner (record_isFlat flat referent shape) _ _ typed item taken
            evaluated
      | scalar cls =>
          rw [inferPath_bracketed_scalar found shape] at typed
          exact absurd (object_of_scalar typed) known
  | plain name next rest step ih =>
      obtain ⟨field, referent, found⟩ := field_of_typed plain.head typed known
      cases shape : field.ty with
      | record inner =>
          rw [inferPath_plain_record step found shape] at typed
          have one := (strategyAfterPlain_eq_none
            (inferPath_keeps_strategy _ _ _ _ _ _ _ _ _ typed single)).1
          have passed := Field.single_of_holds one (start.select_holds plain.head referent)
          rw [evalSteps] at evaluated
          rw [shape] at passed
          exact ih plain.tail _ inner (record_isFlat flat referent shape) _ _ typed _ passed
            evaluated
      | scalar cls =>
          rw [inferPath_plain_scalar step found shape] at typed
          split at typed
          · cases typed
            exact absurd rfl known
          · cases typed
  | other part rest step =>
      rw [inferPath_other step] at typed
      cases typed

/-- A path of plain names that is typed as a single value of a known type against a record gives no
collection on any instance of the record. -/
theorem single_path_gives_no_collection (env : Env) (schema : Record) (content : Content)
    (parts : List Part) (typing : Typing) (value : Value) (flat : schema.isFlat = true)
    (fits : content.isInstanceOf schema = true) (plain : PlainSegments parts)
    (typed : (Expr.path parts).typing env (some schema) = .ok typing)
    (single : typing.strategy = none) (known : typing.ty ≠ .scalar .object)
    (evaluated : (Expr.path parts).evaluate env content = .ok value) :
    ∀ items, value ≠ .array items := by
  obtain ⟨scope, after, inferred⟩ := typing_path typed
  obtain ⟨tyFlat, one⟩ := evalSteps_single env parts parts _ plain true schema flat none scope after
    typing inferred single known _ _ (.inr fits) (evaluate_path_plain plain evaluated)
  exact one.ne_array tyFlat known

/-- The weight of one parcel: `boxes[-1]/parcels[0]/weight`. -/
def firstWeight : List Part :=
  [.segment "boxes", .expr (.literal [.literal (.integer (-1))]), .segment "parcels",
    .expr (.literal [.literal (.integer 0)]), .segment "weight"]

theorem firstWeight_plain : PlainSegments firstWeight := by
  intro name member
  simp only [firstWeight, List.mem_cons, Part.segment.injEq, List.not_mem_nil, reduceCtorEq,
    false_or, or_false] at member
  rcases member with rfl | rfl | rfl <;> decide

theorem single_path_gives_no_collection_firstWeight :
    deliverySchema.isFlat = true ∧ delivery.isInstanceOf deliverySchema = true ∧
      PlainSegments firstWeight ∧
      (Expr.path firstWeight).typing .standard (some deliverySchema) =
        .ok ⟨.scalar .number, none⟩ ∧
      (Expr.path firstWeight).evaluate .standard delivery = .ok (.integer 4) ∧
      ∀ items, Value.integer 4 ≠ .array items :=
  ⟨rfl, by decide, firstWeight_plain, rfl, rfl,
    single_path_gives_no_collection .standard deliverySchema delivery firstWeight
      ⟨.scalar .number, none⟩ _ rfl (by decide) firstWeight_plain rfl rfl (by simp) rfl⟩

end TypedPath
