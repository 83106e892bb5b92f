import TypedPath.Proofs.Viewpoints

/-! How the values of a path are kept, read off the fields that the path comes to. Typing carries
one strategy along the path, and each field and bracket may set it, give it a default or leave it.
At the end the last strategy that was declared has won, and without one the values are kept as a
list as soon as anything on the way gave many. -/

namespace TypedPath

open ScopeM

/-- A field that a path comes to: without a bracket behind it, at the end of the path or not, or
with a bracket and the typing of that bracket. -/
inductive Visit where
  | plain (field : Field) (last : Bool)
  | bracketed (field : Field) (bracket : Expr) (typing : Typing)

namespace Visit

def declared? : Visit → Option Strategy
  | plain field last => if field.isList || last then field.strategy else none
  | bracketed _ _ _ => none

def givesMany : Visit → Bool
  | plain field _ => field.isList
  | bracketed _ bracket typing => bracket.selects typing

end Visit

/-- The last strategy that is declared on the way; without one a list, if there are many values at
all. -/
def strategyOf (visits : List Visit) : Option Strategy :=
  (visits.filterMap Visit.declared?).getLast?.or
    (if visits.any Visit.givesMany then some .list else none)

/-- The fields that a path comes to, up to where typing ends: at the last part, in an unmodeled
record, or behind a field that is not a record. -/
def visits (env : Env) (first : Bool) (context : Option Record) (scope : Scope) :
    List Part → List Visit
  | .segment name :: rest =>
    match Referent.ofSegment name first context scope with
    | .found field =>
      match rest with
      | [] => [.plain field true]
      | .expr bracket :: rest =>
        match outcome (bracket.infer env (field.ty.record?.or context)) (scope.enter field.ty) with
        | .ok typing => .bracketed field bracket typing ::
          match field.ty with
          | .record schema => visits env false (some schema) (scope.enter field.ty) rest
          | .scalar _ => []
        | .error _ => []
      | next :: rest => .plain field false ::
        match field.ty with
        | .record schema => visits env false (some schema) (scope.enter field.ty) (next :: rest)
        | .scalar _ => []
    | _ => []
  | _ => []

def Visit.strategyAfter (visit : Visit) (strategy : Option Strategy) : Option Strategy :=
  match visit with
  | .plain field true => field.strategyAfter strategy
  | .plain field false => if field.isList then field.strategyAfter strategy else strategy
  | .bracketed _ bracket typing => strategyAfterBracket bracket typing strategy

theorem Visit.strategyAfter_eq (visit : Visit) (strategy : Option Strategy) :
    visit.strategyAfter strategy =
      visit.declared?.or (strategy.or (if visit.givesMany then some .list else none)) := by
  cases visit with
  | plain field last =>
      obtain ⟨name, ty, isList, declared⟩ := field
      cases last <;> cases isList <;> cases declared <;> cases strategy <;> rfl
  | bracketed field bracket typing =>
      simp only [Visit.strategyAfter, strategyAfterBracket, Visit.declared?, Visit.givesMany]
      by_cases filter : bracket.selects typing = true <;> cases strategy <;> simp [filter]

theorem if_list_or (first second : Bool) :
    (if first || second then some Strategy.list else none) =
      (if first then some .list else none).or (if second then some .list else none) := by
  cases first <;> rfl

def strategyBehind (visits : List Visit) (strategy : Option Strategy) : Option Strategy :=
  visits.foldl (fun strategy visit => visit.strategyAfter strategy) strategy

theorem strategyBehind_eq (visits : List Visit) (strategy : Option Strategy) :
    strategyBehind visits strategy =
      (visits.filterMap Visit.declared?).getLast?.or
        (strategy.or (if visits.any Visit.givesMany then some .list else none)) := by
  induction visits generalizing strategy with
  | nil => simp [strategyBehind]
  | cons visit visits ih =>
      have last : ((visit :: visits).filterMap Visit.declared?).getLast? =
          (visits.filterMap Visit.declared?).getLast?.or visit.declared? := by
        cases here : visit.declared? with
        | none => simp [here]
        | some declared =>
            rw [List.filterMap_cons_some here, List.getLast?_cons]
            cases (visits.filterMap Visit.declared?).getLast? <;> rfl
      calc
        strategyBehind (visit :: visits) strategy
          = strategyBehind visits (visit.strategyAfter strategy) := rfl
        _ = _ := by
          rw [ih, visit.strategyAfter_eq, last, List.any_cons, if_list_or]
          simp only [Option.or_assoc]

section Steps

variable {env : Env} {whole : List Part} {first : Bool} {context : Option Record}
  {strategy : Option Strategy} {name : String} {bracket : Expr} {next : Part} {rest : List Part}
  {scope after : Scope} {field : Field} {schema : Record} {cls : ValueClass} {typing : Typing}

theorem visits_unmodeled (unknown : Referent.ofSegment name first context scope = .unmodeled) :
    visits env first context scope (.segment name :: rest) = [] := by
  simp only [visits, unknown]

theorem visits_last (found : Referent.ofSegment name first context scope = .found field) :
    visits env first context scope [.segment name] = [.plain field true] := by
  simp only [visits, found]

theorem visits_bracketed (found : Referent.ofSegment name first context scope = .found field)
    (typed : bracket.infer env (field.ty.record?.or context) (scope.enter field.ty) =
      .ok typing after) :
    visits env first context scope (.segment name :: .expr bracket :: rest) =
      .bracketed field bracket typing ::
        match field.ty with
        | .record schema => visits env false (some schema) (scope.enter field.ty) rest
        | .scalar _ => [] := by
  simp only [visits, found, outcome_of_ok typed]

theorem visits_plain (step : ∀ bracket, next ≠ .expr bracket)
    (found : Referent.ofSegment name first context scope = .found field) :
    visits env first context scope (.segment name :: next :: rest) =
      .plain field false ::
        match field.ty with
        | .record schema => visits env false (some schema) (scope.enter field.ty) (next :: rest)
        | .scalar _ => [] := by
  cases next with
  | expr bracket => exact absurd rfl (step bracket)
  | literal | null | operator | segment | method => simp only [visits, found]

theorem inferPath_strategy_of_field
    (typed : inferPath env whole first context strategy (.segment name :: rest) scope =
      .ok typing after)
    (behind : ∀ field, Referent.ofSegment name first context scope = .found field →
      typing.strategy =
        strategyBehind (visits env first context scope (.segment name :: rest)) strategy) :
    typing.strategy =
      strategyBehind (visits env first context scope (.segment name :: rest)) strategy := by
  rcases referent_of_typed typed with ⟨unknown, rfl⟩ | ⟨field, found⟩
  · rw [visits_unmodeled unknown]
    rfl
  · exact behind field found

end Steps

theorem inferPath_strategy (env : Env) (whole parts : List Part) (first : Bool)
    (context : Option Record) (strategy : Option Strategy) (scope after : Scope) (typing : Typing)
    (typed : inferPath env whole first context strategy parts scope = .ok typing after) :
    typing.strategy = strategyBehind (visits env first context scope parts) strategy := by
  induction parts using steps_induction generalizing first context strategy scope with
  | nil => cases typed
  | last name =>
      refine inferPath_strategy_of_field typed fun field found => ?_
      rw [inferPath_last found] at typed
      cases typed
      rw [visits_last found]
      rfl
  | lastBracket name bracket =>
      refine inferPath_strategy_of_field typed fun field found => ?_
      rw [inferPath_lastBracket found] at typed
      obtain ⟨inner, middle, typedBracket, typed⟩ := bind_eq_ok.mp typed
      obtain ⟨rfl, _⟩ := pure_eq_ok.mp typed
      rw [visits_bracketed found typedBracket]
      cases field.ty <;> rfl
  | bracketed name bracket next rest ih =>
      refine inferPath_strategy_of_field typed fun field found => ?_
      obtain ⟨title, ty, isList, declared⟩ := field
      cases ty with
      | record schema =>
          rw [inferPath_bracketed_record found rfl] at typed
          obtain ⟨inner, middle, typedBracket, typed⟩ := bind_eq_ok.mp typed
          obtain rfl := (bracket.infer_restores env _).after_eq typedBracket
          rw [visits_bracketed found typedBracket]
          exact ih _ _ _ _ typed
      | scalar cls =>
          rw [inferPath_bracketed_scalar found rfl] at typed
          obtain ⟨inner, middle, typedBracket, typed⟩ := bind_eq_ok.mp typed
          rw [visits_bracketed found typedBracket]
          split at typed
          · obtain ⟨rfl, _⟩ := pure_eq_ok.mp typed
            rfl
          · cases typed
  | plain name next rest step ih =>
      refine inferPath_strategy_of_field typed fun field found => ?_
      rw [visits_plain step found]
      cases shape : field.ty with
      | record schema =>
          rw [inferPath_plain_record step found shape, shape] at typed
          exact ih _ _ _ _ typed
      | scalar cls =>
          rw [inferPath_plain_scalar step found shape] at typed
          split at typed
          · cases typed
            rfl
          · cases typed
  | other part rest step =>
      rw [inferPath_other step] at typed
      cases typed

theorem strategyOf_isSome (visits : List Visit) :
    (strategyOf visits).isSome = true ↔
      ∃ visit ∈ visits, visit.declared?.isSome = true ∨ visit.givesMany = true := by
  have declared : (visits.filterMap Visit.declared?).getLast?.isSome = true ↔
      ∃ visit ∈ visits, visit.declared?.isSome = true := by
    simp [Option.isSome_iff_ne_none]
  have many : (if visits.any Visit.givesMany then some Strategy.list else none).isSome = true ↔
      ∃ visit ∈ visits, visit.givesMany = true := by
    simp
  rw [strategyOf, Option.isSome_or, Bool.or_eq_true, declared, many]
  simp only [and_or_left, exists_or]

def pathVisits (env : Env) (context : Option Record) (scope : Scope) (parts : List Part) :
    List Visit :=
  visits env true context { scope with nesting := scope.nesting + 1 } parts

/-- The strategy of a path that can be typed is the last one declared by a field without a bracket
that is a list or ends the path. Where none is declared it is a list if some field without a bracket
is a list or some bracket is a filter, and there is no strategy otherwise. A path that has come to
give many values gives many at its end. -/
theorem path_strategy_of_visits (env : Env) (parts : List Part) (context : Option Record)
    (scope : Scope) (typing : Typing)
    (typed : outcome ((Expr.path parts).infer env context) scope = .ok typing) :
    typing.strategy = strategyOf (pathVisits env context scope parts) ∧
      ∀ earlier later, pathVisits env context scope parts = earlier ++ later →
        (strategyOf earlier).isSome = true → typing.givesMany = true := by
  obtain ⟨after, inferred⟩ := outcome_eq_ok.mp typed
  obtain ⟨_, inner, walked⟩ := Expr.steps_of_typed inferred
  have closed : typing.strategy = strategyOf (pathVisits env context scope parts) := by
    rw [inferPath_strategy _ _ _ _ _ _ _ _ _ walked, strategyBehind_eq]
    rfl
  refine ⟨closed, ?_⟩
  intro earlier later split gained
  obtain ⟨visit, member, gains⟩ := (strategyOf_isSome earlier).mp gained
  rw [Typing.givesMany, closed, strategyOf_isSome, split]
  exact ⟨visit, List.mem_append_left _ member, gains⟩

def plantNameField : Field := ⟨"name", .scalar .string, false, none⟩

def plantsField : Field :=
  ⟨"plants", .record ⟨"Plant", [plantNameField, ⟨"height", .scalar .long, false, none⟩], false⟩,
    true, none⟩

def bedsField : Field :=
  ⟨"beds", .record ⟨"Bed", [plantsField], false⟩, true, some (.custom "set")⟩

def gardenSchema : Record := ⟨"Garden", [bedsField], false⟩

def tallerThanTwenty : Expr :=
  .operator [.expr (.path [.segment "height"]), .operator .greater, .literal (.integer 20)]

/-- The names of the tall plants: `beds/plants[height > 20]/name`. -/
def tallPlantNames : List Part :=
  [.segment "beds", .segment "plants", .expr tallerThanTwenty, .segment "name"]

theorem path_strategy_of_visits_tallPlantNames :
    outcome ((Expr.path tallPlantNames).infer .standard (some gardenSchema))
        (.start (some gardenSchema)) = .ok ⟨.scalar .string, some (.custom "set")⟩ ∧
      pathVisits .standard (some gardenSchema) (.start (some gardenSchema)) tallPlantNames =
        [.plain bedsField false,
          .bracketed plantsField tallerThanTwenty (.single (.scalar .boolean)),
          .plain plantNameField true] ∧
      some (Strategy.custom "set") = strategyOf
        (pathVisits .standard (some gardenSchema) (.start (some gardenSchema)) tallPlantNames) ∧
      (⟨.scalar .string, some (.custom "set")⟩ : Typing).givesMany = true := by
  have typed : outcome ((Expr.path tallPlantNames).infer .standard (some gardenSchema))
      (.start (some gardenSchema)) = .ok ⟨.scalar .string, some (.custom "set")⟩ := rfl
  have passed : pathVisits .standard (some gardenSchema) (.start (some gardenSchema))
      tallPlantNames =
      [.plain bedsField false] ++
        [.bracketed plantsField tallerThanTwenty (.single (.scalar .boolean)),
          .plain plantNameField true] := rfl
  obtain ⟨closed, kept⟩ := path_strategy_of_visits .standard tallPlantNames (some gardenSchema)
    (.start (some gardenSchema)) _ typed
  exact ⟨typed, passed, closed, kept _ _ passed rfl⟩

end TypedPath
