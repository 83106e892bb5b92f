import Mathlib.Logic.Relation
import TypedPath.Proofs.CheckSound
import TypedPath.Query

/-! Where a check goes inside an expression: to the operands of an operator, the arguments of a call
and the brackets of a path, each in a context and a scope of its own. Where it finds nothing wrong
with an expression, it finds nothing wrong with anything inside. -/

namespace TypedPath

open ScopeM

/-- An expression with the context and the scope in which it is typed and checked. -/
structure Place where
  expr : Expr
  context : Option Record
  scope : Scope

def Place.Clean (env : Env) (place : Place) : Prop :=
  place.expr.check env place.context place.scope = .ok [] place.scope

theorem Place.clean_of_valid {env : Env} {expr : Expr} {root : Option Record}
    (valid : expr.validate env root = .ok []) : Place.Clean env ⟨expr, root, .start root⟩ := by
  obtain ⟨after, clean⟩ := Expr.validate_eq_nil.mp valid
  obtain rfl := (expr.check_restores env root).after_eq clean
  exact clean

theorem Place.Clean.typing {env : Env} {place : Place} (clean : place.Clean env) :
    ∃ typing, place.expr.infer env place.context place.scope = .ok typing place.scope :=
  (place.expr.typedWhenClean env).typing clean

/-- The steps of a path come by a bracket: behind a segment that refers to a field, with the type of
the field entered and its record as the context. Behind a simple field no step is looked at. -/
inductive MeetsBracket : Bool → Option Record → Scope → List Part → Place → Prop
  | here {first : Bool} {context : Option Record} {scope : Scope} {name : String} {field : Field}
      {bracket : Expr} {rest : List Part}
      (found : Referent.ofSegment name first context scope = .found field) :
      MeetsBracket first context scope (.segment name :: .expr bracket :: rest)
        ⟨bracket, field.ty.record?.or context, scope.enter field.ty⟩
  | bracketed {first : Bool} {context : Option Record} {scope : Scope} {name : String}
      {field : Field} {schema : Record} {bracket : Expr} {rest : List Part} {place : Place}
      (found : Referent.ofSegment name first context scope = .found field)
      (shape : field.ty = .record schema)
      (later : MeetsBracket false (some schema) (scope.enter field.ty) rest place) :
      MeetsBracket first context scope (.segment name :: .expr bracket :: rest) place
  | plain {first : Bool} {context : Option Record} {scope : Scope} {name : String}
      {field : Field} {schema : Record} {next : Part} {rest : List Part} {place : Place}
      (step : ∀ bracket, next ≠ .expr bracket)
      (found : Referent.ofSegment name first context scope = .found field)
      (shape : field.ty = .record schema)
      (later : MeetsBracket false (some schema) (scope.enter field.ty) (next :: rest) place) :
      MeetsBracket first context scope (.segment name :: next :: rest) place

inductive Place.Opens : Place → Place → Prop
  | operand {parts : List Part} {inner : Expr} {context : Option Record} {scope : Scope}
      (member : Part.expr inner ∈ parts) :
      Place.Opens ⟨.operator parts, context, scope⟩
        ⟨inner, context, { scope with nesting := scope.nesting + 1 }⟩
  | argument {name : Part} {arguments : List Part} {inner : Expr} {context : Option Record}
      {scope : Scope} (member : Part.expr inner ∈ arguments) :
      Place.Opens ⟨.call (name :: arguments), context, scope⟩
        ⟨inner, context, { scope with nesting := scope.nesting + 1 }⟩
  | bracket {parts : List Part} {context : Option Record} {scope : Scope} {place : Place}
      (meets : MeetsBracket true context { scope with nesting := scope.nesting + 1 } parts place) :
      Place.Opens ⟨.path parts, context, scope⟩ place

section Brackets

variable {env : Env} {first : Bool} {context : Option Record} {scope after : Scope} {name : String}
  {field : Field} {bracket : Expr} {rest : List Part}

theorem bracket_of_clean (found : Referent.ofSegment name first context scope = .found field)
    (clean : checkPath env first context (.segment name :: .expr bracket :: rest) scope =
      .ok [] after) :
    field.isList = true ∧
      Place.Clean env ⟨bracket, field.ty.record?.or context, scope.enter field.ty⟩ ∧
      ∀ schema, field.ty = .record schema →
        ∃ last, checkPath env false (some schema) rest (scope.enter field.ty) = .ok [] last := by
  cases rest with
  | nil =>
      rw [checkPath_lastBracket found] at clean
      obtain ⟨findings, middle, checked, done⟩ := bind_eq_ok.mp clean
      obtain ⟨quiet, rfl⟩ := pure_eq_ok.mp done
      obtain ⟨list, rfl⟩ := List.append_eq_nil_iff.mp quiet
      obtain rfl := (bracket.check_restores env _).after_eq checked
      refine ⟨by simpa [Field.bracketFindings] using list, checked, fun schema _ => ?_⟩
      rw [checkPath_nil]
      exact ⟨_, rfl⟩
  | cons next rest =>
      cases shape : field.ty with
      | record schema =>
          rw [checkPath_bracketed_record found shape] at clean
          obtain ⟨findings, middle, checked, clean⟩ := bind_eq_ok.mp clean
          obtain ⟨more, last, checkedLater, done⟩ := bind_eq_ok.mp clean
          obtain ⟨quiet, rfl⟩ := pure_eq_ok.mp done
          simp only [List.append_eq_nil_iff] at quiet
          obtain ⟨⟨list, rfl⟩, rfl⟩ := quiet
          obtain rfl := (bracket.check_restores env _).after_eq checked
          rw [shape] at checked checkedLater
          refine ⟨by simpa [Field.bracketFindings] using list, checked, fun inner same => ?_⟩
          cases same
          exact ⟨_, checkedLater⟩
      | scalar cls =>
          rw [checkPath_bracketed_scalar found shape] at clean
          obtain ⟨findings, middle, checked, done⟩ := bind_eq_ok.mp clean
          obtain ⟨quiet, rfl⟩ := pure_eq_ok.mp done
          simp only [List.append_eq_nil_iff] at quiet
          obtain ⟨⟨list, rfl⟩, _⟩ := quiet
          obtain rfl := (bracket.check_restores env _).after_eq checked
          rw [shape] at checked
          exact ⟨by simpa [Field.bracketFindings] using list, checked, fun _ same => by cases same⟩

end Brackets

theorem MeetsBracket.clean {env : Env} {first : Bool} {context : Option Record}
    {scope after : Scope} {parts : List Part} {place : Place}
    (meets : MeetsBracket first context scope parts place)
    (clean : checkPath env first context parts scope = .ok [] after) : place.Clean env := by
  induction meets generalizing after with
  | here found => exact (bracket_of_clean found clean).2.1
  | bracketed found shape later ih =>
      obtain ⟨last, cleanLater⟩ := (bracket_of_clean found clean).2.2 _ shape
      exact ih cleanLater
  | plain step found shape later ih =>
      rw [checkPath_plain_record step found shape] at clean
      exact ih clean

theorem side_of_quiet {env : Env} {parts : List Part} {context : Option Record}
    {scope after : Scope} {operand : Operand} {inner : Expr}
    (checked : checkSide env parts context (some (.expr inner)) scope = .ok operand after)
    (quiet : operand.findings = []) : Place.Clean env ⟨inner, context, scope⟩ := by
  rw [checkSide] at checked
  exact (Part.expr_of_quiet checked quiet).1

theorem operand_clean {env : Env} {parts : List Part} {context : Option Record} {scope : Scope}
    {inner : Expr} (clean : Place.Clean env ⟨.operator parts, context, scope⟩)
    (member : Part.expr inner ∈ parts) :
    Place.Clean env ⟨inner, context, { scope with nesting := scope.nesting + 1 }⟩ := by
  obtain ⟨_, form, left, right, middle, last, formed, _, checkedLeft, checkedRight, noLeft,
    noRight, _⟩ := operator_of_clean clean
  have restored := (checkSide_restores env parts context form.left fun inner _ =>
    inner.check_restores env context).after_eq checkedLeft
  subst restored
  rw [form.parts_eq parts formed, List.mem_append, List.mem_cons] at member
  rcases member with member | same | member
  · rw [Option.mem_toList.mp member] at checkedLeft
    exact side_of_quiet checkedLeft noLeft
  · cases same
  · rw [Option.mem_toList.mp member] at checkedRight
    exact side_of_quiet checkedRight noRight

theorem checkArguments_clean {env : Env} {whole : Expr} {method : String}
    {context : Option Record} {scope after : Scope} {inner : Expr} (arguments : List Part)
    (position : Nat) (parameters : List Parameter)
    (enough : arguments.length ≤ parameters.length)
    (clean : checkArguments env whole method context position parameters arguments scope =
      .ok [] after)
    (member : Part.expr inner ∈ arguments) : Place.Clean env ⟨inner, context, scope⟩ := by
  induction arguments generalizing position parameters with
  | nil => cases member
  | cons argument arguments ih =>
      cases parameters with
      | nil => simp at enough
      | cons parameter parameters =>
          rw [checkArguments_cons] at clean
          obtain ⟨operand, middle, checked, clean⟩ := bind_eq_ok.mp clean
          obtain ⟨more, last, checkedMore, done⟩ := bind_eq_ok.mp clean
          obtain ⟨quiet, rfl⟩ := pure_eq_ok.mp done
          simp only [List.append_eq_nil_iff] at quiet
          obtain ⟨⟨noFindings, _⟩, rfl⟩ := quiet
          obtain rfl := (argument.check_restores env whole context fun inner _ =>
            inner.check_restores env context).after_eq checked
          rcases List.mem_cons.mp member with rfl | member
          · exact (Part.expr_of_quiet checked noFindings).1
          · exact ih (position + 1) parameters (by simpa using enough) checkedMore member

theorem Registry.arity_of_resolve {registry : Registry} {name : String} {count : Nat}
    {signature : Signature} (resolved : registry.resolve name count = .ok signature) :
    signature.parameters.length = count := by
  unfold Registry.resolve at resolved
  dsimp only at resolved
  split at resolved
  · cases resolved
  · split at resolved
    · rename_i found
      cases resolved
      simpa [Signature.arity] using List.find?_some found
    · cases resolved

theorem argument_clean {env : Env} {name : Part} {arguments : List Part}
    {context : Option Record} {scope : Scope} {inner : Expr}
    (clean : Place.Clean env ⟨.call (name :: arguments), context, scope⟩)
    (member : Part.expr inner ∈ arguments) :
    Place.Clean env ⟨inner, context, { scope with nesting := scope.nesting + 1 }⟩ := by
  unfold Place.Clean at clean
  rw [Expr.check] at clean
  obtain ⟨_, last, clean⟩ := oneDeeper_eq_ok clean
  obtain ⟨method, middle, lifted, clean⟩ := bind_eq_ok.mp clean
  obtain ⟨_, rfl⟩ := lift_eq_ok.mp lifted
  cases resolved : env.methods.resolve method (methodArguments (name :: arguments)).length with
  | error cause =>
      simp only [resolved] at clean
      obtain ⟨quiet, _⟩ := pure_eq_ok.mp clean
      cases quiet
  | ok signature =>
      simp only [resolved] at clean
      have count := Registry.arity_of_resolve resolved
      exact checkArguments_clean arguments 0 signature.parameters (Nat.le_of_eq count.symm) clean
        member

theorem Place.Clean.opens {env : Env} {place inner : Place} (clean : place.Clean env)
    (opens : place.Opens inner) : inner.Clean env := by
  cases opens with
  | operand member => exact operand_clean clean member
  | argument member => exact argument_clean clean member
  | bracket meets =>
      unfold Place.Clean at clean
      rw [Expr.check] at clean
      obtain ⟨_, last, clean⟩ := oneDeeper_eq_ok clean
      obtain ⟨last, clean⟩ := leaving_eq_ok clean
      split at clean
      · obtain ⟨quiet, _⟩ := pure_eq_ok.mp clean
        cases quiet
      · exact meets.clean clean

theorem Place.Clean.inside {env : Env} {place inner : Place} (clean : place.Clean env)
    (within : Relation.ReflTransGen Place.Opens place inner) : inner.Clean env := by
  induction within with
  | refl => exact clean
  | tail _ opens ih => exact ih.opens opens

end TypedPath
