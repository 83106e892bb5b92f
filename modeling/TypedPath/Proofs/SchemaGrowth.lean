import Mathlib.Data.List.Forall2
import TypedPath.Typing.Infer

/-! Schemas that have grown: records with further fields behind those that they had, at the root or
anywhere inside. What a segment of a path referred to it still refers to, in its grown form. -/

namespace TypedPath

mutual

inductive Ty.Grows : Ty → Ty → Prop where
  | scalar (cls : ValueClass) : Ty.Grows (.scalar cls) (.scalar cls)
  | record {old new : Record} : Record.Grows old new → Ty.Grows (.record old) (.record new)

inductive Field.Grows : Field → Field → Prop where
  | intro (name : String) (isList : Bool) (strategy : Option Strategy) {old new : Ty} :
      Ty.Grows old new → Field.Grows ⟨name, old, isList, strategy⟩ ⟨name, new, isList, strategy⟩

inductive Record.Grows : Record → Record → Prop where
  | intro (name : String) (unmodeled : Bool) {old new : List Field} :
      FieldsGrow old new → Record.Grows ⟨name, old, unmodeled⟩ ⟨name, new, unmodeled⟩

/-- Fields stay in their places and may grow themselves. Behind them any others may be added, but
for attributes: one of these could take over a segment that stood for a field without the mark. -/
inductive FieldsGrow : List Field → List Field → Prop where
  | added {fields : List Field} :
      (∀ field ∈ fields, unmark? attributeMark field.name = none) → FieldsGrow [] fields
  | kept {old new : Field} {olds news : List Field} :
      Field.Grows old new → FieldsGrow olds news → FieldsGrow (old :: olds) (new :: news)

end

mutual

theorem Ty.grows_refl : (ty : Ty) → ty.Grows ty
  | .scalar cls => .scalar cls
  | .record schema => .record schema.grows_refl

theorem Record.grows_refl : (schema : Record) → schema.Grows schema
  | ⟨name, fields, unmodeled⟩ => .intro name unmodeled (fieldsGrow_refl fields)

theorem fieldsGrow_refl : (fields : List Field) → FieldsGrow fields fields
  | [] => .added (by simp)
  | ⟨name, ty, isList, strategy⟩ :: fields =>
      .kept (.intro name isList strategy ty.grows_refl) (fieldsGrow_refl fields)

end

section Fields

variable {old new : Field}

theorem Field.Grows.name_eq (grows : old.Grows new) : new.name = old.name := by
  cases grows
  rfl

theorem Field.Grows.isList_eq (grows : old.Grows new) : new.isList = old.isList := by
  cases grows
  rfl

theorem Field.Grows.strategyAfter_eq (grows : old.Grows new) (strategy : Option Strategy) :
    new.strategyAfter strategy = old.strategyAfter strategy := by
  cases grows
  rfl

theorem Field.Grows.ty_grows (grows : old.Grows new) : old.ty.Grows new.ty := by
  cases grows with
  | intro _ _ _ inner => exact inner

theorem Field.Grows.scalar_eq {cls : ValueClass} (grows : old.Grows new)
    (shape : old.ty = .scalar cls) : new.ty = .scalar cls := by
  have inner := grows.ty_grows
  rw [shape] at inner
  generalize new.ty = ty at inner
  cases inner
  rfl

theorem Field.Grows.record_grows {schema : Record} (grows : old.Grows new)
    (shape : old.ty = .record schema) :
    ∃ grown, new.ty = .record grown ∧ schema.Grows grown := by
  have inner := grows.ty_grows
  rw [shape] at inner
  generalize new.ty = ty at inner
  cases inner with
  | record inner => exact ⟨_, rfl, inner⟩

end Fields

section Types

variable {old new : Ty}

theorem Ty.Grows.class_eq (grows : old.Grows new) : new.class? = old.class? := by
  cases grows <;> rfl

theorem Ty.Grows.valueClass_eq (grows : old.Grows new) : new.valueClass = old.valueClass := by
  cases grows <;> rfl

theorem Ty.Grows.isScalar_eq (grows : old.Grows new) : new.isScalar = old.isScalar := by
  cases grows <;> rfl

theorem Ty.Grows.isBoolean_eq (grows : old.Grows new) : new.isBoolean = old.isBoolean := by
  cases grows <;> rfl

theorem Ty.Grows.isUnconstrained_eq (grows : old.Grows new) :
    new.isUnconstrained = old.isUnconstrained := by
  rw [Ty.isUnconstrained, Ty.isUnconstrained, grows.class_eq]

end Types

theorem FieldsGrow.find_kept {old new : List Field} {name : String} {field : Field}
    (grow : FieldsGrow old new) (found : old.find? (·.name == name) = some field) :
    ∃ grown, new.find? (·.name == name) = some grown ∧ field.Grows grown := by
  induction old generalizing new with
  | nil => cases found
  | cons head tail ih =>
      cases grow with
      | kept first rest =>
          rename_i head' tail'
          by_cases here : head.name = name
          · have here' : head'.name = name := first.name_eq.trans here
            simp only [List.find?_cons, here, beq_self_eq_true, Option.some.injEq] at found
            subst found
            exact ⟨head', by simp [here'], first⟩
          · have elsewhere : head'.name ≠ name := fun same => here (first.name_eq.symm.trans same)
            simp only [List.find?_cons, beq_eq_false_iff_ne.mpr here] at found
            simp only [List.find?_cons, beq_eq_false_iff_ne.mpr elsewhere]
            exact ih rest found

theorem FieldsGrow.find_attribute {old new : List Field} {name bare : String}
    (grow : FieldsGrow old new) (marked : unmark? attributeMark name = some bare)
    (absent : old.find? (·.name == name) = none) : new.find? (·.name == name) = none := by
  induction old generalizing new with
  | nil =>
      cases grow with
      | added plain =>
          apply List.find?_eq_none.mpr
          intro field member same
          have unmarked := plain field member
          rw [beq_iff_eq.mp same, marked] at unmarked
          cases unmarked
  | cons head tail ih =>
      cases grow with
      | kept first rest =>
          rename_i head' tail'
          simp only [List.find?_cons] at absent
          split at absent
          · cases absent
          · rename_i elsewhere
            rw [List.find?_cons, first.name_eq, elsewhere]
            exact ih rest absent

/-- What a segment referred to, it refers to still; where it referred to nothing, it may now refer
to anything. -/
inductive Referent.KeptBy : Referent → Referent → Prop where
  | found {field grown : Field} : field.Grows grown → Referent.KeptBy (.found field) (.found grown)
  | unmodeled : Referent.KeptBy .unmodeled .unmodeled
  | missing (schema : String) (later : Referent) : Referent.KeptBy (.missing schema) later
  | noContext (later : Referent) : Referent.KeptBy .noContext later

theorem Referent.KeptBy.found_inv {field : Field} {later : Referent}
    (kept : Referent.KeptBy (.found field) later) :
    ∃ grown, later = .found grown ∧ field.Grows grown := by
  cases kept with
  | found grows => exact ⟨_, rfl, grows⟩

theorem Referent.KeptBy.unmodeled_inv {later : Referent}
    (kept : Referent.KeptBy .unmodeled later) : later = .unmodeled := by
  cases kept
  rfl

theorem Referent.ofRecord_kept {old new : Record} (grows : old.Grows new) (name : String) :
    (Referent.ofRecord old name).KeptBy (Referent.ofRecord new name) := by
  cases grows with
  | intro title unmodeled grow =>
      unfold Referent.ofRecord
      cases unmodeled with
      | true => exact .unmodeled
      | false =>
          simp only [Bool.false_eq_true, if_false, Record.field?]
          split
          · rename_i field found
            obtain ⟨grown, foundLater, grows⟩ := grow.find_kept found
            rw [foundLater]
            exact .found grows
          · exact .missing _ _

theorem Referent.ofRecord_attribute {old new : Record} {name bare absent : String}
    (grows : old.Grows new) (marked : unmark? attributeMark name = some bare)
    (missing : Referent.ofRecord old name = .missing absent) :
    ∃ still, Referent.ofRecord new name = .missing still := by
  cases grows with
  | intro title unmodeled grow =>
      unfold Referent.ofRecord at missing ⊢
      cases unmodeled with
      | true => cases missing
      | false =>
          simp only [Bool.false_eq_true, if_false, Record.field?] at missing ⊢
          split at missing
          · cases missing
          · rename_i none
            rw [grow.find_attribute marked none]
            exact ⟨_, rfl⟩

structure Scope.Grows (old new : Scope) : Prop where
  trail : List.Forall₂ Ty.Grows old.trail new.trail
  nesting : new.nesting = old.nesting

theorem head_grows {olds news : List Ty} (grow : List.Forall₂ Ty.Grows olds news) :
    Option.Rel Ty.Grows olds.head? news.head? := by
  cases grow with
  | nil => exact .none
  | cons first rest => exact .some first

namespace Scope.Grows

variable {old new : Scope}

theorem current (grows : old.Grows new) : Option.Rel Ty.Grows old.current new.current :=
  head_grows grows.trail

theorem root (grows : old.Grows new) : Option.Rel Record.Grows old.root new.root := by
  have last := head_grows (List.forall₂_reverse_iff.mpr grows.trail)
  rw [List.head?_reverse, List.head?_reverse] at last
  unfold Scope.root
  generalize old.trail.getLast? = oldLast at last ⊢
  generalize new.trail.getLast? = newLast at last ⊢
  cases last with
  | none => exact .none
  | some grows =>
      cases grows with
      | scalar cls => exact .none
      | record inner => exact .some inner

theorem enter {ty grown : Ty} (grows : old.Grows new) (entered : ty.Grows grown) :
    (old.enter ty).Grows (new.enter grown) :=
  ⟨.cons entered grows.trail, grows.nesting⟩

theorem deeper (grows : old.Grows new) :
    Scope.Grows { old with nesting := old.nesting + 1 } { new with nesting := new.nesting + 1 } :=
  ⟨grows.trail, by simp only [grows.nesting]⟩

theorem start {schema grown : Record} (grows : schema.Grows grown) :
    (Scope.start (some schema)).Grows (Scope.start (some grown)) :=
  ⟨.cons (.record grows) .nil, rfl⟩

end Scope.Grows

theorem Scope.grows_refl (scope : Scope) : scope.Grows scope :=
  ⟨List.forall₂_same.mpr fun ty _ => ty.grows_refl, rfl⟩

theorem context_grows_refl (context : Option Record) :
    Option.Rel Record.Grows context context := by
  cases context with
  | none => exact .none
  | some schema => exact .some schema.grows_refl

theorem Ty.Grows.context_grows {ty grownTy : Ty} {context grown : Option Record}
    (grows : ty.Grows grownTy) (contexts : Option.Rel Record.Grows context grown) :
    Option.Rel Record.Grows (ty.record?.or context) (grownTy.record?.or grown) := by
  cases grows with
  | scalar cls => exact contexts
  | record inner => exact .some inner

structure Typing.Grows (old new : Typing) : Prop where
  ty : old.ty.Grows new.ty
  strategy : new.strategy = old.strategy

theorem Typing.grows_refl (typing : Typing) : typing.Grows typing :=
  ⟨typing.ty.grows_refl, rfl⟩

theorem Referent.ofSegment_kept {context grown : Option Record} {scope grownScope : Scope}
    (contexts : Option.Rel Record.Grows context grown) (scopes : scope.Grows grownScope)
    (name : String) (first : Bool) :
    (Referent.ofSegment name first context scope).KeptBy
      (Referent.ofSegment name first grown grownScope) := by
  unfold Referent.ofSegment
  cases unmark? rootMark name with
  | some bare =>
      have bases : Option.Rel Record.Grows (if first then scope.root else context)
          (if first then grownScope.root else grown) := by
        cases first with
        | true => exact scopes.root
        | false => exact contexts
      generalize (if first then scope.root else context) = base at bases
      generalize (if first then grownScope.root else grown) = grownBase at bases
      cases bases with
      | none => exact .noContext _
      | some grows => exact Referent.ofRecord_kept grows bare
  | none =>
      dsimp only
      split
      · have currents := scopes.current
        generalize scope.current = current at currents
        generalize grownScope.current = grownCurrent at currents
        cases currents with
        | none => exact .noContext _
        | some grows => exact .found (.intro _ _ _ grows)
      · cases contexts with
        | none => exact .noContext _
        | some grows =>
            have kept := Referent.ofRecord_kept grows name
            dsimp only
            split
            · rename_i missing
              cases marked : unmark? attributeMark name with
              | none => exact .missing _ _
              | some bare =>
                  -- the mark is left out in the grown record too, as no attribute was added
                  obtain ⟨still, missingLater⟩ :=
                    Referent.ofRecord_attribute grows marked missing
                  have folded := Referent.ofRecord_kept grows bare
                  rw [missingLater]
                  simp only [Option.map_some]
                  split
                  · rename_i field found
                    rw [Option.some.injEq] at found
                    rw [found] at folded
                    obtain ⟨grownField, foundLater, fieldGrows⟩ := folded.found_inv
                    rw [foundLater]
                    exact .found fieldGrows
                  · exact .missing _ _
            · rename_i other notMissing
              generalize Referent.ofRecord _ name = earlier at kept notMissing
              generalize Referent.ofRecord _ name = later at kept
              cases kept with
              | found fieldGrows => exact .found fieldGrows
              | unmodeled => exact .unmodeled
              | missing schema later => exact absurd rfl (notMissing schema)
              | noContext later => exact .noContext _

end TypedPath
