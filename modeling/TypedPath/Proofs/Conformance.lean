import TypedPath.Eval.Access

/-! When values conform to types, and what reading a field keeps of it. Collections are seen through
their leaves: what they hold besides null, however deep. -/

namespace TypedPath

/-- Whether a value belongs to a class. Classes of integers and of fractions differ only in what may
be written there, not in their values. -/
def ValueClass.admits : ValueClass → Value → Bool
  | .boolean, .boolean _ => true
  | .string, .string _ => true
  | .integer, .integer _ | .long, .integer _ => true
  | .float, .float _ | .double, .float _ | .decimal, .float _ => true
  | .number, .integer _ | .number, .float _ => true
  | .date, .integer _ | .date, .string _ => true
  | .object, _ => true
  | .content, value => value.content?.isSome
  | .list component, .array items | .array component, .array items => items.all component.admits
  | _, _ => false

mutual

/-- Whether a value conforms to a type. Every structured value conforms to an unmodeled record. -/
def Value.conforms : Value → Ty → Bool
  | value, .scalar cls => cls.admits value
  | .object fields, .record schema => schema.unmodeled || fieldsConform schema fields
  | .record _ fields, .record schema => schema.unmodeled || fieldsConform schema fields
  | _, .record _ => false

def fieldsConform (schema : Record) : List (String × Value) → Bool
  | [] => true
  | (name, value) :: fields =>
    (match schema.field? name with
      | some field =>
        value.kind == .null ||
          if field.isList then value.itemsConform field.ty else value.conforms field.ty
      | none => false) && fieldsConform schema fields

def Value.itemsConform : Value → Ty → Bool
  | .array items, ty => allConform items ty
  | _, _ => false

def allConform : List Value → Ty → Bool
  | [], _ => true
  | item :: items, ty => item.conforms ty && allConform items ty

end

mutual

def Ty.isFlat : Ty → Bool
  | .scalar cls => !cls.isIterable
  | .record schema => schema.isFlat

def Record.isFlat : Record → Bool
  | ⟨_, fields, _⟩ => fieldsFlat fields

def fieldsFlat : List Field → Bool
  | [] => true
  | ⟨_, ty, _, _⟩ :: fields => ty.isFlat && fieldsFlat fields

end

mutual

/-- What a value holds besides null when all collections in it are unfolded. -/
def Value.leaves : Value → List Value
  | .null => []
  | .array items => leavesOf items
  | single => [single]

def leavesOf : List Value → List Value
  | [] => []
  | item :: items => item.leaves ++ leavesOf items

end

def Value.LeavesConform (value : Value) (ty : Ty) : Prop :=
  ∀ leaf ∈ value.leaves, leaf.conforms ty = true

theorem mem_leavesOf (items : List Value) (leaf : Value) :
    leaf ∈ leavesOf items ↔ ∃ item ∈ items, leaf ∈ item.leaves := by
  induction items with
  | nil => simp [leavesOf]
  | cons item items ih => simp [leavesOf, ih]

theorem leavesOf_append (front back : List Value) :
    leavesOf (front ++ back) = leavesOf front ++ leavesOf back := by
  induction front with
  | nil => rfl
  | cons item items ih => simp [leavesOf, ih]

theorem leavesOf_gather (value : Value) (rest : List Value) :
    leavesOf (value.gather rest) = value.leaves ++ leavesOf rest := by
  cases value <;> simp [Value.gather, Value.leaves, leavesOf, leavesOf_append]

theorem allConform_iff (items : List Value) (ty : Ty) :
    allConform items ty = true ↔ ∀ item ∈ items, item.conforms ty = true := by
  induction items with
  | nil => simp [allConform]
  | cons item items ih => simp [allConform, ih]

theorem Field.isFlat_of_mem {fields : List Field} {field : Field}
    (flat : fieldsFlat fields = true) (member : field ∈ fields) : field.ty.isFlat = true := by
  induction fields with
  | nil => cases member
  | cons head tail ih =>
      obtain ⟨name, ty, isList, strategy⟩ := head
      simp only [fieldsFlat, Bool.and_eq_true] at flat
      rcases List.mem_cons.mp member with rfl | member
      · exact flat.1
      · exact ih flat.2 member

theorem Record.field_isFlat {schema : Record} {name : String} {field : Field}
    (flat : schema.isFlat = true) (found : schema.field? name = some field) :
    field.ty.isFlat = true := by
  obtain ⟨title, fields, unmodeled⟩ := schema
  have member : field ∈ fields := List.mem_of_find?_eq_some found
  exact Field.isFlat_of_mem (by simpa only [Record.isFlat] using flat) member

theorem Value.conforms_object (value : Value) : value.conforms (.scalar .object) = true := by
  cases value <;> rfl

theorem Value.eq_null_of_kind {value : Value} (null : value.kind = .null) : value = .null := by
  cases value with
  | null => rfl
  | boolean | float | integer | string | array | object | record => cases null

theorem Ty.null_leavesConform (ty : Ty) : Value.null.LeavesConform ty := by
  intro leaf member
  cases member

theorem Value.array_not_conforms {ty : Ty} (flat : ty.isFlat = true)
    (known : ty ≠ .scalar .object) (items : List Value) :
    (Value.array items).conforms ty = false := by
  cases ty with
  | record schema => simp [Value.conforms]
  | scalar cls =>
      cases cls <;>
        simp_all [Value.conforms, ValueClass.admits, Ty.isFlat, ValueClass.isIterable,
          Value.content?]

theorem leaves_of_conforms {value : Value} {ty : Ty} (flat : ty.isFlat = true)
    (conforms : value.conforms ty = true) : value.LeavesConform ty := by
  intro leaf member
  by_cases object : ty = .scalar .object
  · rw [object]
    exact leaf.conforms_object
  · cases value with
    | null => cases member
    | array items =>
        rw [Value.array_not_conforms flat object] at conforms
        cases conforms
    | boolean | float | integer | string | object | record =>
        rw [List.mem_singleton.mp member]
        exact conforms

theorem leaves_of_itemsConform {value : Value} {ty : Ty} (flat : ty.isFlat = true)
    (conforms : value.itemsConform ty = true) : value.LeavesConform ty := by
  cases value with
  | array items =>
      intro leaf member
      obtain ⟨item, present, inner⟩ := (mem_leavesOf items leaf).mp member
      have itemConforms := (allConform_iff items ty).mp conforms item present
      exact leaves_of_conforms flat itemConforms leaf inner
  | null | boolean | float | integer | string | object | record =>
      simp [Value.itemsConform] at conforms

def Field.holds (field : Field) (value : Value) : Bool :=
  value.kind == .null ||
    if field.isList then value.itemsConform field.ty else value.conforms field.ty

theorem holds_of_fieldsConform {schema : Record} {fields : List (String × Value)} {name : String}
    {value : Value} {field : Field} (conform : fieldsConform schema fields = true)
    (set : lookupField name fields = some value) (found : schema.field? name = some field) :
    field.holds value = true := by
  induction fields with
  | nil => cases set
  | cons head tail ih =>
      obtain ⟨key, held⟩ := head
      simp only [fieldsConform, Bool.and_eq_true] at conform
      by_cases same : key = name
      · subst same
        simp only [lookupField, if_true, Option.some.injEq] at set
        subst set
        simpa only [Field.holds, found] using conform.1
      · exact ih conform.2 (by simpa only [lookupField, same, if_false] using set)

theorem leaves_of_holds {field : Field} {value : Value} (flat : field.ty.isFlat = true)
    (holds : field.holds value = true) : value.LeavesConform field.ty := by
  simp only [Field.holds, Bool.or_eq_true, beq_iff_eq] at holds
  rcases holds with null | declared
  · rw [Value.eq_null_of_kind null]
    exact field.ty.null_leavesConform
  · split at declared
    · exact leaves_of_itemsConform flat declared
    · exact leaves_of_conforms flat declared

mutual

theorem Value.leaves_select (name : String) : (value : Value) →
    (value.select name).leaves = value.leaves.flatMap fun leaf => (leaf.select name).leaves
  | .array items => by
      simpa only [Value.select, Value.leaves] using leavesOf_selectAll name items
  | .null => rfl
  | .boolean _ | .float _ | .integer _ | .string _ | .object _ | .record _ _ => by
      simp [Value.leaves]

theorem leavesOf_selectAll (name : String) : (items : List Value) →
    leavesOf (Value.selectAll name items) =
      (leavesOf items).flatMap fun leaf => (leaf.select name).leaves
  | [] => rfl
  | item :: items => by
      rw [Value.selectAll, leavesOf_gather, item.leaves_select name, leavesOf_selectAll name items]
      simp only [leavesOf, List.flatMap_append]

end

def Content.toValue : Content → Value
  | .map fields => .object fields
  | .document members => .object (Value.fieldsOfJson members)
  | .record schema fields => .record schema fields

def Content.isInstanceOf (content : Content) (schema : Record) : Bool :=
  content.toValue.conforms (.record schema)

theorem lookupField_fieldsOfJson (name : String) (members : List (String × Json)) :
    lookupField name (Value.fieldsOfJson members) =
      (lookupField name members).map Value.ofJson := by
  induction members with
  | nil => rfl
  | cons member members ih =>
      obtain ⟨key, value⟩ := member
      by_cases same : key = name <;> simp [Value.fieldsOfJson, lookupField, same, ih]

theorem Content.select_toValue (content : Content) (name : String) :
    content.toValue.select name = content.read name := by
  cases content with
  | map fields | record schema fields => rfl
  | document members =>
      have agree : (Content.map (Value.fieldsOfJson members)).get? =
          (Content.document members).get? := by
        funext name
        exact lookupField_fieldsOfJson name members
      simp only [Content.toValue, Value.select, Content.read, agree]

end TypedPath
