import TypedPath.Eval.StoragePath
import TypedPath.Proofs.PathValues

/-! Segments with marks: the field that a segment refers to, and what reading the segment gives. The
two meet except in two cases. Behind the first segment a root mark leads typing to the field without
the mark, and is taken for a part of the name in reading. And an attribute that is declared but not
set is read from the field without the mark. -/

namespace TypedPath

/-- What the evaluator reads for a segment, at the start of a path or from a content that the path
has reached. -/
def Content.evalSegment (env : Env) (content : Content) (self : Option Value) (first : Bool)
    (name : String) : Except EvalError Value :=
  if first then (Expr.path [.segment name]).eval env ⟨content, content, self⟩
  else evalSteps env ⟨content, content, self⟩ content.toValue [.segment name]

def Content.valueOf (content : Content) (name : String) : Value :=
  (content.get? name).getD .null

def Content.FoldsUnset (content : Content) (name : String) : Prop :=
  content.get? name = none ∧
    ∃ bare, unmark? attributeMark name = some bare ∧ content.valueOf bare ≠ .null

theorem Record.name_of_field {schema : Record} {name : String} {field : Field}
    (found : schema.field? name = some field) : field.name = name := by
  simpa using List.find?_some found

theorem declared_of_fieldsConform {schema : Record} {fields : List (String × Value)}
    {name : String} (conform : fieldsConform schema fields = true)
    (undeclared : schema.field? name = none) : lookupField name fields = none := by
  induction fields with
  | nil => rfl
  | cons head tail ih =>
      obtain ⟨key, held⟩ := head
      simp only [fieldsConform, Bool.and_eq_true] at conform
      have different : key ≠ name := by
        rintro rfl
        simp [undeclared] at conform
      rw [lookupField, if_neg different]
      exact ih conform.2

theorem Content.get_undeclared {content : Content} {schema : Record} {name : String}
    (fits : content.isInstanceOf schema = true) (modeled : schema.unmodeled = false)
    (undeclared : schema.field? name = none) : content.get? name = none := by
  cases content with
  | map fields | record own fields =>
      have conform : fieldsConform schema fields = true := by
        simpa [Content.isInstanceOf, Content.toValue, Value.conforms, modeled] using fits
      exact declared_of_fieldsConform conform undeclared
  | document members =>
      have conform : fieldsConform schema (Value.fieldsOfJson members) = true := by
        simpa [Content.isInstanceOf, Content.toValue, Value.conforms, modeled] using fits
      have unset := declared_of_fieldsConform conform undeclared
      rw [lookupField_fieldsOfJson] at unset
      exact unset

theorem Referent.ofRecord_missing {schema : Record} {name title : String}
    (missing : Referent.ofRecord schema name = .missing title) : schema.field? name = none := by
  unfold Referent.ofRecord at missing
  split at missing
  · cases missing
  · split at missing
    · cases missing
    · assumption

/-- A segment other than the self reference refers to the field of its name without a root mark, or
to the field without an attribute mark where none is declared with it. -/
theorem Referent.ofSegment_found {name : String} {first : Bool} {schema : Record} {scope : Scope}
    {field : Field} (other : name ≠ selfReference) (rooted : scope.root = some schema)
    (found : Referent.ofSegment name first (some schema) scope = .found field) :
    schema.unmodeled = false ∧ schema.field? field.name = some field ∧
      (field.name = storedName name ∨
        unmark? rootMark name = none ∧ schema.field? name = none ∧
          unmark? attributeMark name = some field.name) := by
  have declared {key : String} (present : Referent.ofRecord schema key = .found field) :
      field.name = key ∧ schema.unmodeled = false ∧ schema.field? field.name = some field := by
    obtain ⟨modeled, set⟩ := Referent.ofRecord_found present
    have same := Record.name_of_field set
    exact ⟨same, modeled, same ▸ set⟩
  unfold Referent.ofSegment at found
  cases marked : unmark? rootMark name with
  | some bare =>
      have base : (if first then scope.root else some schema) = some schema := by
        cases first <;> simp [rooted]
      simp only [marked, base] at found
      obtain ⟨same, modeled, set⟩ := declared found
      exact ⟨modeled, set, .inl (by simp [storedName, marked, same])⟩
  | none =>
      simp only [marked, if_neg other] at found
      split at found
      · rename_i title missing
        split at found
        · rename_i folded
          cases found
          obtain ⟨bare, unmarked, present⟩ := Option.map_eq_some_iff.mp folded
          obtain ⟨same, modeled, set⟩ := declared present
          exact ⟨modeled, set, .inr ⟨rfl, Referent.ofRecord_missing missing, same ▸ unmarked⟩⟩
        · cases found
      · obtain ⟨same, modeled, set⟩ := declared found
        exact ⟨modeled, set, .inl (by simp [storedName, marked, same])⟩

theorem Content.read_eq_valueOf_iff (content : Content) (name : String) :
    content.read name = content.valueOf name ↔ ¬ content.FoldsUnset name := by
  unfold Content.read Content.FoldsUnset Content.valueOf
  cases set : content.get? name with
  | some value => simp
  | none => cases marked : unmark? attributeMark name <;> simp

theorem Content.read_folded {content : Content} {name bare : String}
    (unset : content.get? name = none) (marked : unmark? attributeMark name = some bare) :
    content.read name = content.valueOf bare := by
  unfold Content.read Content.valueOf
  rw [unset, marked]
  rfl

theorem unmark_attribute_of_root {name bare : String}
    (marked : unmark? rootMark name = some bare) : unmark? attributeMark name = none := by
  unfold unmark? at marked ⊢
  split at marked
  · split at marked
    · rename_i root
      apply if_neg
      rw [root]
      decide
    · cases marked
  · cases marked

section Segment

variable {env : Env} {content : Content} {self : Option Value} {first : Bool} {name : String}

theorem Content.evalSegment_eq_read (other : name ≠ selfReference)
    (upright : first = true ∨ unmark? rootMark name = none) :
    content.evalSegment env self first name = .ok (content.read (storedName name)) := by
  unfold Content.evalSegment storedName
  cases first with
  | true =>
      rw [if_pos rfl, Expr.eval, evalSteps, Frame.read]
      cases unmark? rootMark name with
      | some bare => rfl
      | none => exact congrArg Except.ok (if_neg other)
  | false =>
      rcases upright with start | unmarked
      · cases start
      · rw [if_neg Bool.false_ne_true, evalSteps, evalSteps, content.select_toValue, unmarked]
        rfl

theorem Content.evalSegment_marked {bare : String} (marked : unmark? rootMark name = some bare) :
    content.evalSegment env self false name = .ok (content.valueOf name) := by
  have plain := unmark_attribute_of_root marked
  rw [Content.evalSegment, if_neg Bool.false_ne_true, evalSteps, evalSteps, content.select_toValue]
  unfold Content.read Content.valueOf
  rw [plain]
  cases content.get? name <;> rfl

end Segment

/-- What is read for a segment that refers to a field of a record, from an instance of the record.
It is the value of that field, or null when the field is not set, with two exceptions and no others:
for an attribute that is not set the field without the mark is read, and behind the first segment a
root mark is read as a part of the name. -/
theorem segment_reads_declared_field (env : Env) (schema : Record) (content : Content)
    (scope : Scope) (self : Option Value) (first : Bool) (name : String) (field : Field)
    (other : name ≠ selfReference) (rooted : scope.root = some schema)
    (fits : content.isInstanceOf schema = true)
    (found : Referent.ofSegment name first (some schema) scope = .found field) :
    (first = true ∨ unmark? rootMark name = none →
      (content.evalSegment env self first name = .ok (content.valueOf field.name) ↔
        ¬ (field.name = storedName name ∧ content.FoldsUnset field.name))) ∧
    (first = false → (unmark? rootMark name).isSome = true →
      field.name = storedName name ∧
        content.evalSegment env self first name = .ok (content.valueOf name)) := by
  obtain ⟨modeled, declared, named⟩ := Referent.ofSegment_found other rooted found
  constructor
  · intro upright
    rw [Content.evalSegment_eq_read other upright, Except.ok.injEq]
    rcases named with same | ⟨unmarked, undeclared, folded⟩
    · rw [← same, content.read_eq_valueOf_iff]
      simp
    · -- The attribute is not declared, so no instance has it: reading falls back as typing does.
      have unset := Content.get_undeclared fits modeled undeclared
      have bare : storedName name = name := by simp [storedName, unmarked]
      have different : field.name ≠ name := by
        intro same
        rw [same, undeclared] at declared
        cases declared
      rw [bare, Content.read_folded unset folded]
      simp [different]
  · rintro rfl marked
    obtain ⟨bare, stripped⟩ := Option.isSome_iff_exists.mp marked
    refine ⟨?_, Content.evalSegment_marked stripped⟩
    rcases named with same | ⟨unmarked, _⟩
    · exact same
    · rw [unmarked] at stripped
      cases stripped

def unitAttribute : Field := ⟨"@unit", .scalar .long, false, none⟩

def levelField : Field := ⟨"level", .scalar .long, false, none⟩

def gaugeSchema : Record :=
  ⟨"Gauge", [levelField, unitAttribute, ⟨"unit", .scalar .string, false, none⟩], false⟩

theorem segment_reads_declared_field_unit :
    Referent.ofSegment "/@unit" true (some gaugeSchema) (.start (some gaugeSchema)) =
        .found unitAttribute ∧
      (Content.map [("unit", .string "bar"), ("@unit", .integer 3)]).isInstanceOf gaugeSchema =
        true ∧
      (Content.map [("unit", .string "bar"), ("@unit", .integer 3)]).evalSegment .standard none true
        "/@unit" = .ok (.integer 3) := by
  have found : Referent.ofSegment "/@unit" true (some gaugeSchema) (.start (some gaugeSchema)) =
      .found unitAttribute := rfl
  have fits : (Content.map [("unit", .string "bar"), ("@unit", .integer 3)]).isInstanceOf
      gaugeSchema = true := by decide
  have main := segment_reads_declared_field .standard gaugeSchema _ _ none true "/@unit"
    unitAttribute (by decide) rfl fits found
  refine ⟨found, fits, (main.1 (.inl rfl)).mpr ?_⟩
  rintro ⟨_, unset, _⟩
  cases unset

def gauge : Content := .record gaugeSchema [("level", .integer 7), ("unit", .string "bar")]

/-- With a root mark behind the first segment the level is not found, and for the attribute that is
not set the unit is read, which is of another type. -/
theorem segment_reads_other_field :
    gauge.isInstanceOf gaugeSchema = true ∧
      Referent.ofSegment "/level" false (some gaugeSchema) (.start (some gaugeSchema)) =
        .found levelField ∧
      gauge.evalSegment .standard none false "/level" = .ok .null ∧
      gauge.valueOf "level" = .integer 7 ∧
      Referent.ofSegment "@unit" true (some gaugeSchema) (.start (some gaugeSchema)) =
        .found unitAttribute ∧
      gauge.evalSegment .standard none true "@unit" = .ok (.string "bar") ∧
      gauge.valueOf "@unit" = .null :=
  ⟨by decide, rfl, rfl, rfl, rfl, rfl, rfl⟩

end TypedPath
