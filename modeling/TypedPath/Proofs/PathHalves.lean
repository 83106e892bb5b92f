import TypedPath.Proofs.TwoRuns

/-! Paths are typed in halves. When the front of a path leads to a record, the rest of the path has
the type that it has by itself in that record. What the front has gathered on its way, the types
entered and the strategy so far, has no part in the type. -/

namespace TypedPath

open ScopeM

def ScopeM.type? (body : ScopeM Typing) (scope : Scope) : Option Ty :=
  (outcome body scope).toOption.map Typing.ty

section Types

variable {body other : ScopeM Typing} {scope start : Scope}

theorem type_eq_some {ty : Ty} :
    type? body scope = some ty ↔ ∃ typing, outcome body scope = .ok typing ∧ typing.ty = ty := by
  unfold type?
  cases outcome body scope <;> simp [Except.toOption]

theorem type_eq (same : outcome body scope = outcome other start) :
    type? body scope = type? other start := by
  rw [type?, same, type?]

theorem type_of_ok {after : Scope} {typing : Typing} (done : body scope = .ok typing after) :
    type? body scope = some typing.ty := by
  rw [type?, outcome_of_ok done]
  rfl

theorem type_of_error {after : Scope} {failure : Failure}
    (failed : body scope = .error failure after) : type? body scope = none := by
  rw [type?, outcome_of_error failed]
  rfl

theorem type_bind {α : Type} {first : ScopeM α} {next later : α → ScopeM Typing}
    (same : ∀ value after, type? (next value) after = type? (later value) after) :
    type? (first >>= next) scope = type? (first >>= later) scope := by
  unfold type? outcome at same ⊢
  rw [bind_run, bind_run]
  cases first scope with
  | ok value after => exact same value after
  | error failure after => rfl

end Types

section Steps

variable {env : Env} {whole other : List Part} {first : Bool} {context : Option Record}
  {strategy otherStrategy : Option Strategy} {name : String} {rest : List Part} {scope : Scope}

theorem inferPath_type_of_field
    (behind : ∀ field, Referent.ofSegment name first context scope = .found field →
      type? (inferPath env whole first context strategy (.segment name :: rest)) scope =
        type? (inferPath env other first context otherStrategy (.segment name :: rest)) scope) :
    type? (inferPath env whole first context strategy (.segment name :: rest)) scope =
      type? (inferPath env other first context otherStrategy (.segment name :: rest)) scope := by
  cases referent : Referent.ofSegment name first context scope with
  | found field => exact behind field referent
  | unmodeled =>
      rw [type_of_ok (inferPath_unmodeled referent), type_of_ok (inferPath_unmodeled referent)]
  | missing schema =>
      rw [type_of_error (inferPath_missing referent), type_of_error (inferPath_missing referent)]
  | noContext =>
      rw [type_of_error (inferPath_noContext referent),
        type_of_error (inferPath_noContext referent)]

end Steps

theorem inferPath_type (env : Env) (whole other parts : List Part) (first : Bool)
    (context : Option Record) (strategy otherStrategy : Option Strategy) (scope : Scope) :
    type? (inferPath env whole first context strategy parts) scope =
      type? (inferPath env other first context otherStrategy parts) scope := by
  induction parts using steps_induction
    generalizing first context strategy otherStrategy scope with
  | nil =>
      rw [inferPath, inferPath]
      rfl
  | last name =>
      refine inferPath_type_of_field fun field found => ?_
      rw [type_of_ok (inferPath_last found), type_of_ok (inferPath_last found)]
  | lastBracket name bracket =>
      refine inferPath_type_of_field fun field found => ?_
      rw [type_eq (outcome_eq (inferPath_lastBracket found)),
        type_eq (outcome_eq (inferPath_lastBracket found))]
      exact type_bind fun _ _ => rfl
  | bracketed name bracket next rest ih =>
      refine inferPath_type_of_field fun field found => ?_
      cases shape : field.ty with
      | record schema =>
          rw [type_eq (outcome_eq (inferPath_bracketed_record found shape)),
            type_eq (outcome_eq (inferPath_bracketed_record found shape))]
          exact type_bind fun _ _ => ih _ _ _ _ _
      | scalar cls =>
          rw [type_eq (outcome_eq (inferPath_bracketed_scalar found shape)),
            type_eq (outcome_eq (inferPath_bracketed_scalar found shape))]
          refine type_bind fun _ _ => ?_
          split <;> rfl
  | plain name next rest step ih =>
      refine inferPath_type_of_field fun field found => ?_
      cases shape : field.ty with
      | record schema =>
          rw [type_eq (outcome_eq (inferPath_plain_record step found shape)),
            type_eq (outcome_eq (inferPath_plain_record step found shape))]
          exact ih _ _ _ _ _
      | scalar cls =>
          unfold type? outcome
          rw [inferPath_plain_scalar step found shape, inferPath_plain_scalar step found shape]
          cases cls.isUnconstrained <;> rfl
  | other part rest step =>
      rw [type_of_error (inferPath_other step), type_of_error (inferPath_other step)]

theorem Referent.ofSegment_unmarked {name : String} (unmarked : unmark? rootMark name = none)
    (first other : Bool) (context : Option Record) (scope : Scope) :
    Referent.ofSegment name first context scope = Referent.ofSegment name other context scope := by
  unfold Referent.ofSegment
  rw [unmarked]

theorem inferPath_unmarked {env : Env} {whole rest : List Part} {context : Option Record}
    {strategy : Option Strategy} {name : String} (unmarked : unmark? rootMark name = none)
    (first other : Bool) :
    inferPath env whole first context strategy (.segment name :: rest) =
      inferPath env whole other context strategy (.segment name :: rest) := by
  rw [inferPath_segment, inferPath_segment]
  simp only [Referent.ofSegment_unmarked unmarked first other]

theorem Scope.Alike.inferPath_eq {scope start : Scope} (alike : scope.Alike start) (env : Env)
    (whole parts : List Part) (first : Bool) (context : Option Record)
    (strategy : Option Strategy) :
    outcome (inferPath env whole first context strategy parts) scope =
      outcome (inferPath env whole first context strategy parts) start := by
  have seen : StepsSeenAlike parts (scope.nesting + heightOf parts) first context context scope
      start :=
    { scopes := alike
      room := fun bracket member => Nat.add_le_add_left (height_le_of_mem member) _
      head := fun name _ _ => Referent.ofSegment_alike alike name first context
      contexts := fun _ _ _ _ _ _ => contextsAgree_refl _ _ }
  have follows := inferPath_follows whole parts
    (fun bracket _ => bracket.infersAlike env.lifts_refl) first context context strategy scope start
    seen
  exact follows.eq

theorem Scope.Alike.trans {scope middle start : Scope} (first : scope.Alike middle)
    (second : middle.Alike start) : scope.Alike start :=
  ⟨first.root.trans second.root, first.current.trans second.current,
    first.nesting.trans second.nesting⟩

theorem Scope.enter_enter_alike {scope : Scope} (rooted : scope.trail ≠ []) (between ty : Ty) :
    ((scope.enter between).enter ty).Alike (scope.enter ty) := by
  have inside : scope.current.isNone = false := by
    simpa [Scope.current] using rooted
  refine ⟨?_, rfl, rfl⟩
  rw [Scope.root_enter_eq, Scope.root_enter_eq, Scope.root_enter_eq, inside]
  rfl

theorem found_of_record_typed {env : Env} {whole : List Part} {first : Bool}
    {context : Option Record} {strategy : Option Strategy} {name : String} {rest : List Part}
    {scope after : Scope} {typing : Typing} {middle : Record}
    (typed : inferPath env whole first context strategy (.segment name :: rest) scope =
      .ok typing after)
    (shape : typing.ty = .record middle) :
    ∃ field, Referent.ofSegment name first context scope = .found field := by
  rcases referent_of_typed typed with ⟨_, rfl⟩ | found
  · cases shape
  · exact found

/-- Behind a front that leads to a record the path goes on in that record, in a scope that is alike
to the one in which the record is entered at once. -/
theorem inferPath_append {env : Env} {front frontWhole : List Part} {first : Bool}
    {context : Option Record} {strategy : Option Strategy} {scope after : Scope} {typing : Typing}
    {middle : Record} (whole : List Part) (name : String) (rest : List Part)
    (typed : inferPath env frontWhole first context strategy front scope = .ok typing after)
    (shape : typing.ty = .record middle) (rooted : scope.trail ≠ []) :
    ∃ later inner, inner.Alike (scope.enter (.record middle)) ∧
      inferPath env whole first context strategy (front ++ .segment name :: rest) scope =
        inferPath env whole false (some middle) later (.segment name :: rest) inner := by
  -- what is entered on the way lies between the root and the record, where nothing is looked up
  induction front using steps_induction generalizing first context strategy scope with
  | nil => cases typed
  | last segment =>
      obtain ⟨field, found⟩ := found_of_record_typed typed shape
      rw [inferPath_last found] at typed
      cases typed
      have step : ∀ bracket, Part.segment name ≠ .expr bracket := by simp
      refine ⟨_, _, ?_, inferPath_plain_record step found shape⟩
      rw [show field.ty = .record middle from shape]
      exact Scope.alike_refl _
  | lastBracket segment bracket =>
      obtain ⟨field, found⟩ := found_of_record_typed typed shape
      rw [inferPath_lastBracket found] at typed
      obtain ⟨inside, leaves, typedBracket, typed⟩ := bind_eq_ok.mp typed
      obtain ⟨rfl, _⟩ := pure_eq_ok.mp typed
      obtain rfl := (bracket.infer_restores env _).after_eq typedBracket
      obtain ⟨title, ty, isList, declared⟩ := field
      obtain rfl : ty = .record middle := shape
      refine ⟨strategyAfterBracket bracket inside strategy, _, Scope.alike_refl _, ?_⟩
      calc
        _ = _ := inferPath_bracketed_record found rfl
        _ = _ := bind_run_of_ok _ typedBracket
  | bracketed segment bracket next back ih =>
      obtain ⟨field, found⟩ := found_of_record_typed typed shape
      obtain ⟨title, ty, isList, declared⟩ := field
      cases ty with
      | record schema =>
          rw [inferPath_bracketed_record found rfl] at typed
          obtain ⟨inside, leaves, typedBracket, typed⟩ := bind_eq_ok.mp typed
          obtain rfl := (bracket.infer_restores env _).after_eq typedBracket
          obtain ⟨later, inner, alike, goes⟩ := ih typed (List.cons_ne_nil _ _)
          refine ⟨later, inner, alike.trans (Scope.enter_enter_alike rooted _ _), ?_⟩
          calc
            _ = _ := inferPath_bracketed_record found rfl
            _ = _ := bind_run_of_ok _ typedBracket
            _ = _ := goes
      | scalar cls =>
          rw [inferPath_bracketed_scalar found rfl] at typed
          obtain ⟨inside, leaves, typedBracket, typed⟩ := bind_eq_ok.mp typed
          split at typed
          · obtain ⟨rfl, _⟩ := pure_eq_ok.mp typed
            cases shape
          · cases typed
  | plain segment next back step ih =>
      obtain ⟨field, found⟩ := found_of_record_typed typed shape
      cases fieldShape : field.ty with
      | record schema =>
          rw [inferPath_plain_record step found fieldShape] at typed
          obtain ⟨later, inner, alike, goes⟩ := ih typed (List.cons_ne_nil _ _)
          refine ⟨later, inner, alike.trans (Scope.enter_enter_alike rooted _ _), ?_⟩
          exact (inferPath_plain_record step found fieldShape).trans goes
      | scalar cls =>
          rw [inferPath_plain_scalar step found fieldShape] at typed
          split at typed
          · cases typed
            cases shape
          · cases typed
  | other part back step =>
      rw [inferPath_other step] at typed
      cases typed

theorem path_type {env : Env} {scope : Scope} (allowed : MayOpen env scope) (parts : List Part)
    (context : Option Record) :
    type? ((Expr.path parts).infer env context) scope =
      type? (inferPath env parts true context none parts)
        { scope with nesting := scope.nesting + 1 } := by
  apply type_eq
  rw [Expr.infer, outcome_oneDeeper _ allowed, outcome_leaving]

/-- Where the front of a path leads to a record, in a scope that has a root, the whole path has a
type just when the rest of it has that type by itself, in the context of the record and with the
record entered. -/
theorem path_typed_by_halves (env : Env) (scope : Scope) (context : Option Record)
    (front rest : List Part) (name : String) (typing : Typing) (middle : Record)
    (rooted : scope.trail ≠ []) (unmarked : unmark? rootMark name = none)
    (typed : outcome ((Expr.path front).infer env context) scope = .ok typing)
    (shape : typing.ty = .record middle) (ty : Ty) :
    (∃ whole, outcome ((Expr.path (front ++ .segment name :: rest)).infer env context) scope =
        .ok whole ∧ whole.ty = ty) ↔
      ∃ back, outcome ((Expr.path (.segment name :: rest)).infer env (some middle))
        (scope.enter (.record middle)) = .ok back ∧ back.ty = ty := by
  obtain ⟨after, typed⟩ := outcome_eq_ok.mp typed
  obtain ⟨allowed, reached, typed⟩ := Expr.steps_of_typed typed
  have within : MayOpen env (scope.enter (.record middle)) := allowed
  let opened : Scope := { scope with nesting := scope.nesting + 1 }
  let parts := Part.segment name :: rest
  obtain ⟨strategy, inner, alike, goes⟩ :=
    inferPath_append (front ++ parts) name rest typed shape rooted
  -- the rest by itself starts without a strategy and with a first segment, which it does not see
  have same : type? ((Expr.path (front ++ parts)).infer env context) scope =
      type? ((Expr.path parts).infer env (some middle)) (scope.enter (.record middle)) := by
    calc
      _ = type? (inferPath env (front ++ parts) true context none (front ++ parts)) opened :=
        path_type allowed _ _
      _ = type? (inferPath env (front ++ parts) false (some middle) strategy parts) inner :=
        type_eq (outcome_eq goes)
      _ = type? (inferPath env parts false (some middle) none parts) inner :=
        inferPath_type _ _ _ _ _ _ _ _ _
      _ = type? (inferPath env parts false (some middle) none parts)
            (opened.enter (.record middle)) :=
        type_eq (alike.inferPath_eq _ _ _ _ _ _)
      _ = type? (inferPath env parts true (some middle) none parts)
            (opened.enter (.record middle)) := by
        rw [inferPath_unmarked unmarked false true]
      _ = _ := (path_type within _ _).symm
  rw [← type_eq_some, ← type_eq_some, same]

def berthSchema : Record := ⟨"Berth", [⟨"depth", .scalar .long, false, none⟩], false⟩

def harbourSchema : Record :=
  ⟨"Harbour", [⟨"piers", .record ⟨"Pier", [⟨"berths", .record berthSchema, true, none⟩], false⟩,
    true, none⟩], false⟩

/-- The deep berths of the first pier: `piers[0]/berths[depth > 12]`. -/
def deepBerths : List Part :=
  [.segment "piers", .expr (.literal [.literal (.integer 0)]), .segment "berths", .expr (.operator
    [.expr (.path [.segment "depth"]), .operator .greater, .literal (.integer 12)])]

theorem path_typed_by_halves_deepBerths :
    outcome ((Expr.path deepBerths).infer .standard (some harbourSchema))
        (.start (some harbourSchema)) = .ok ⟨.record berthSchema, some .list⟩ ∧
      ∃ whole, outcome ((Expr.path (deepBerths ++ [.segment "depth"])).infer .standard
        (some harbourSchema)) (.start (some harbourSchema)) = .ok whole ∧
          whole.ty = .scalar .long := by
  have typed : outcome ((Expr.path deepBerths).infer .standard (some harbourSchema))
      (.start (some harbourSchema)) = .ok ⟨.record berthSchema, some .list⟩ := rfl
  have back : outcome ((Expr.path [.segment "depth"]).infer .standard (some berthSchema))
      ((Scope.start (some harbourSchema)).enter (.record berthSchema)) =
        .ok (.single (.scalar .long)) := rfl
  have halves := path_typed_by_halves .standard (.start (some harbourSchema)) (some harbourSchema)
    deepBerths [] "depth" _ berthSchema (List.cons_ne_nil _ _) (by decide) typed rfl (.scalar .long)
  exact ⟨typed, halves.mpr ⟨_, back, rfl⟩⟩

end TypedPath
