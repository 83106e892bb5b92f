import TypedPath.Proofs.TwoRuns

/-! Absolute paths start from the root, wherever they stand. One thing they still take from the
context in which they stand: a bracket directly behind the first segment, when the field of the root
holds simple values, is typed in that context and not in the root. -/

namespace TypedPath

open ScopeM

/-- The bracket of an absolute path that is typed in the context where the path stands, by the root,
the name of the first segment without its mark and the steps behind it. -/
def bracketInContext? (root : Record) (bare : String) : List Part → Option Expr
  | .expr bracket :: _ =>
    match Referent.ofRecord root bare with
    | .found field => if field.ty.isScalar then some bracket else none
    | _ => none
  | _ => none

theorem bracketInContext_of_scalar {root : Record} {bare : String} {bracket : Expr}
    {rest : List Part} {field : Field} {cls : ValueClass}
    (found : Referent.ofRecord root bare = .found field) (shape : field.ty = .scalar cls) :
    bracketInContext? root bare (.expr bracket :: rest) = some bracket := by
  simp [bracketInContext?, found, shape, Ty.isScalar]

theorem Referent.ofSegment_absolute {name bare : String} {root : Record} {scope : Scope}
    (marked : unmark? rootMark name = some bare) (rooted : scope.root = some root)
    (context : Option Record) :
    Referent.ofSegment name true context scope = Referent.ofRecord root bare := by
  simp [Referent.ofSegment, marked, rooted]

theorem absolute_stepsSeenAlike (scope : Scope) {root : Record} {name bare : String}
    {steps : List Part} {context other : Option Record}
    (marked : unmark? rootMark name = some bare) (rooted : scope.root = some root)
    (agree : ∀ bracket, bracketInContext? root bare steps = some bracket →
      ContextsAgree bracket.relativeNames context other) :
    StepsSeenAlike (.segment name :: steps) (scope.nesting + heightOf (.segment name :: steps)) true
      context other scope scope where
  scopes := scope.alike_refl
  room bracket member := Nat.add_le_add_left (height_le_of_mem member) _
  head := by
    rintro _ _ ⟨⟩
    rw [Referent.ofSegment_absolute marked rooted, Referent.ofSegment_absolute marked rooted]
  contexts := by
    rintro _ bracket rest field ⟨⟩ found
    rw [Referent.ofSegment_absolute marked rooted] at found
    cases shape : field.ty with
    | record schema => exact contextsAgree_refl _ _
    | scalar cls => exact agree bracket (bracketInContext_of_scalar found shape)

/-- An absolute path is typed and checked alike in two contexts, if they agree on the names that are
read in the bracket behind its first segment. That condition is empty when the first segment refers
to a record or has no bracket behind it, and when the bracket reads no relative names. -/
theorem absolute_path_typed_alike (env : Env) (scope : Scope) (root : Record) (name bare : String)
    (steps : List Part) (context other : Option Record) (rooted : scope.root = some root)
    (marked : unmark? rootMark name = some bare)
    (agree : ∀ bracket, bracketInContext? root bare steps = some bracket →
      ContextsAgree bracket.relativeNames context other) :
    outcome ((Expr.path (.segment name :: steps)).infer env context) scope =
        outcome ((Expr.path (.segment name :: steps)).infer env other) scope ∧
      outcome ((Expr.path (.segment name :: steps)).check env context) scope =
        outcome ((Expr.path (.segment name :: steps)).check env other) scope := by
  have seen := absolute_stepsSeenAlike { scope with nesting := scope.nesting + 1 } marked rooted
    agree
  have room : scope.nesting < scope.nesting + 1 + heightOf (.segment name :: steps) := by omega
  have typed := path_infer_follows env.lifts_refl scope.alike_refl room
    (fun bracket _ => bracket.infersAlike env.lifts_refl) seen
  have checked := path_check_follows env.lifts_refl scope.alike_refl room
    (fun bracket _ => bracket.checksAlike env.lifts_refl) seen
  exact ⟨typed.eq, checked.eq⟩

/-- One of the tags of a shop: `/tags[chosen]`. -/
def chosenTag : List Part := [.segment "/tags", .expr (.path [.segment "chosen"])]

def chosenField : Field := ⟨"chosen", .scalar .long, false, none⟩

def tagListField : Field := ⟨"tags", .scalar .string, true, none⟩

def shopSchema : Record := ⟨"Shop", [tagListField, chosenField], false⟩

def deskSchema : Record := ⟨"Desk", [⟨"width", .scalar .long, false, none⟩, chosenField], false⟩

theorem absolute_path_typed_alike_chosenTag :
    bracketInContext? shopSchema "tags" chosenTag.tail = some (.path [.segment "chosen"]) ∧
      ContextsAgree (Expr.path [.segment "chosen"]).relativeNames (some shopSchema)
        (some deskSchema) ∧
      outcome ((Expr.path chosenTag).infer .standard (some shopSchema)) (.start (some shopSchema)) =
        outcome ((Expr.path chosenTag).infer .standard (some deskSchema))
          (.start (some shopSchema)) ∧
      outcome ((Expr.path chosenTag).check .standard (some shopSchema)) (.start (some shopSchema)) =
        outcome ((Expr.path chosenTag).check .standard (some deskSchema))
          (.start (some shopSchema)) := by
  have inContext : bracketInContext? shopSchema "tags" chosenTag.tail =
      some (.path [.segment "chosen"]) := rfl
  have agree : ContextsAgree (Expr.path [.segment "chosen"]).relativeNames (some shopSchema)
      (some deskSchema) := by
    intro name member scope
    rw [List.mem_singleton.mp member]
    rfl
  refine ⟨inContext, agree, absolute_path_typed_alike .standard (.start (some shopSchema))
    shopSchema "/tags" "tags" chosenTag.tail (some shopSchema) (some deskSchema) rfl rfl ?_⟩
  intro bracket found
  obtain rfl := Option.some.inj (inContext.symm.trans found)
  exact agree

section OneBracket

variable {env : Env} {context : Option Record} {scope : Scope} {name : String} {field : Field}

theorem bracketed_field_infer (bracket : Expr) (allowed : MayOpen env scope)
    (found : Referent.ofSegment name true context { scope with nesting := scope.nesting + 1 } =
      .found field) :
    outcome ((Expr.path [.segment name, .expr bracket]).infer env context) scope =
      (outcome (bracket.infer env (field.ty.record?.or context))
        ⟨field.ty :: scope.trail, scope.nesting + 1⟩).map
        fun typing => ⟨field.ty, strategyAfterBracket bracket typing none⟩ := by
  rw [Expr.infer, outcome_oneDeeper _ allowed, outcome_leaving,
    outcome_eq (inferPath_lastBracket found), outcome_map]
  rfl

theorem bracketed_field_check (bracket : Expr) (allowed : MayOpen env scope)
    (found : Referent.ofSegment name true context { scope with nesting := scope.nesting + 1 } =
      .found field) :
    outcome ((Expr.path [.segment name, .expr bracket]).check env context) scope =
      (outcome (bracket.check env (field.ty.record?.or context))
        ⟨field.ty :: scope.trail, scope.nesting + 1⟩).map (field.bracketFindings ++ ·) := by
  rw [Expr.check, outcome_oneDeeper _ allowed, outcome_leaving]
  exact (outcome_eq (checkPath_lastBracket found)).trans (outcome_map _ _ _)

end OneBracket

def rackSchema : Record := ⟨"Rack", [⟨"chosen", .scalar .boolean, false, none⟩], false⟩

/-- From the shop the path gives one tag, from a rack it gives many, and without a context it can
not be typed. -/
theorem absolute_path_typed_apart :
    (Scope.start (some shopSchema)).root = some shopSchema ∧
      unmark? rootMark "/tags" = some "tags" ∧
      outcome ((Expr.path chosenTag).infer .standard (some shopSchema)) (.start (some shopSchema)) =
        .ok ⟨.scalar .string, none⟩ ∧
      outcome ((Expr.path chosenTag).infer .standard (some rackSchema)) (.start (some shopSchema)) =
        .ok ⟨.scalar .string, some .list⟩ ∧
      outcome ((Expr.path chosenTag).infer .standard none) (.start (some shopSchema)) =
        .error (.noContext "chosen") ∧
      outcome ((Expr.path chosenTag).check .standard (some shopSchema)) (.start (some shopSchema)) =
        .ok [] ∧
      outcome ((Expr.path chosenTag).check .standard none) (.start (some shopSchema)) =
        .ok [.noSchema "chosen"] := by
  have allowed : MayOpen .standard (.start (some shopSchema)) := show 0 < 256 by decide
  have found (context : Option Record) :
      Referent.ofSegment "/tags" true context ⟨[.record shopSchema], 1⟩ = .found tagListField := rfl
  have typed (context : Option Record) :=
    bracketed_field_infer (.path [.segment "chosen"]) allowed (found context)
  have checked (context : Option Record) :=
    bracketed_field_check (.path [.segment "chosen"]) allowed (found context)
  exact ⟨rfl, rfl, (typed _).trans rfl, (typed _).trans rfl, (typed _).trans rfl,
    (checked _).trans rfl, (checked _).trans rfl⟩

end TypedPath
