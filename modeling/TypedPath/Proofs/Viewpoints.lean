import TypedPath.Proofs.RelativeReads
import TypedPath.Proofs.ScopeReuse

/-! What an expression can see from where it stands: the root and the innermost type of its scope,
the fields that its relative names refer to in the context, and how much room is left for nesting.
Two viewpoints are alike when these are the same. -/

namespace TypedPath

open ScopeM

namespace ScopeM

variable {α β : Type}

theorem outcome_eq {body other : ScopeM α} {scope start : Scope}
    (same : body scope = other start) : outcome body scope = outcome other start := by
  rw [outcome, same, outcome]

theorem outcome_of_ok {body : ScopeM α} {scope after : Scope} {value : α}
    (done : body scope = .ok value after) : outcome body scope = .ok value := by
  rw [outcome, done]

theorem outcome_of_error {body : ScopeM α} {scope after : Scope} {failure : Failure}
    (failed : body scope = .error failure after) : outcome body scope = .error failure := by
  rw [outcome, failed]

theorem outcome_eq_ok {body : ScopeM α} {scope : Scope} {value : α} :
    outcome body scope = .ok value ↔ ∃ after, body scope = .ok value after := by
  unfold outcome
  cases body scope <;> simp

theorem outcome_lift (result : Except Failure α) (scope : Scope) :
    outcome (lift result) scope = result := by
  cases result <;> rfl

theorem outcome_leaving (body : ScopeM α) (scope : Scope) :
    outcome (leaving body) scope = outcome body scope := by
  simp only [outcome, leaving]
  cases body scope <;> rfl

theorem outcome_bind {body : ScopeM α} (restores : Restores body) (next : α → ScopeM β)
    (scope : Scope) :
    outcome (body >>= next) scope =
      (outcome body scope).bind fun value => outcome (next value) scope := by
  have same := restores scope
  unfold final at same
  simp only [outcome, bind_run]
  cases run : body scope with
  | ok value after =>
      rw [run] at same
      dsimp only at same
      rw [same]
      rfl
  | error failure after => rfl

theorem outcome_map (body : ScopeM α) (next : α → β) (scope : Scope) :
    outcome (do return next (← body)) scope = (outcome body scope).map next := by
  simp only [outcome, bind_run]
  cases body scope <;> rfl

theorem outcome_oneDeeper {env : Env} {scope : Scope} (body : ScopeM α)
    (allowed : MayOpen env scope) :
    outcome (oneDeeper env body) scope =
      outcome body { scope with nesting := scope.nesting + 1 } := by
  rw [outcome, oneDeeper_of_mayOpen body allowed, oneDeeper.run, outcome]
  cases body { scope with nesting := scope.nesting + 1 } <;> rfl

end ScopeM

/-- The first result is the second one, or a failure that may come in its place. -/
def FollowsUnless {α : Type} (lost : Failure → Prop) (result other : Except Failure α) : Prop :=
  result = other ∨ ∃ failure, lost failure ∧ result = .error failure

section Follows

variable {α β : Type} {lost : Failure → Prop}

theorem followsUnless_refl (result : Except Failure α) : FollowsUnless lost result result :=
  .inl rfl

theorem FollowsUnless.bind {result other : Except Failure α} {next later : α → Except Failure β}
    (first : FollowsUnless lost result other)
    (second : ∀ value, FollowsUnless lost (next value) (later value)) :
    FollowsUnless lost (result.bind next) (other.bind later) := by
  rcases first with rfl | ⟨failure, gone, rfl⟩
  · cases result with
    | ok value => exact second value
    | error failure => exact followsUnless_refl _
  · exact .inr ⟨failure, gone, rfl⟩

theorem FollowsUnless.map {result other : Except Failure α} (next : α → β)
    (first : FollowsUnless lost result other) :
    FollowsUnless lost (result.map next) (other.map next) := by
  rcases first with rfl | ⟨failure, gone, rfl⟩
  · exact followsUnless_refl _
  · exact .inr ⟨failure, gone, rfl⟩

theorem FollowsUnless.outcome_bind {body other : ScopeM α} {next later : α → ScopeM β}
    {scope start : Scope} (restores : Restores body) (restoresOther : Restores other)
    (first : FollowsUnless lost (outcome body scope) (outcome other start))
    (second : ∀ value,
      FollowsUnless lost (outcome (next value) scope) (outcome (later value) start)) :
    FollowsUnless lost (outcome (body >>= next) scope) (outcome (other >>= later) start) := by
  rw [ScopeM.outcome_bind restores, ScopeM.outcome_bind restoresOther]
  exact first.bind second

theorem FollowsUnless.outcome_map {body other : ScopeM α} {scope start : Scope} (next : α → β)
    (first : FollowsUnless lost (outcome body scope) (outcome other start)) :
    FollowsUnless lost (outcome (do return next (← body)) scope)
      (outcome (do return next (← other)) start) := by
  rw [ScopeM.outcome_map, ScopeM.outcome_map]
  exact first.map next

theorem followsUnless_lift_bind {result : Except Failure α} {next later : α → ScopeM β}
    {scope start : Scope}
    (second : ∀ value, result = .ok value →
      FollowsUnless lost (outcome (next value) scope) (outcome (later value) start)) :
    FollowsUnless lost (outcome (lift result >>= next) scope)
      (outcome (lift result >>= later) start) := by
  cases result with
  | ok value => exact second value rfl
  | error failure => exact followsUnless_refl _

end Follows

/-- The second environment has the rules of the first, and its limit of nesting or none. -/
structure Env.Lifts (env other : Env) : Prop where
  converts : other.converts = env.converts
  methods : other.methods = env.methods
  literalType : ∀ literal, other.literalType literal = env.literalType literal
  limit : other.config.maxDepth = env.config.maxDepth ∨ other.config.maxDepth = none

theorem Env.lifts_refl (env : Env) : env.Lifts env := ⟨rfl, rfl, fun _ => rfl, .inl rfl⟩

/-- The failure at a limit below `reach` that the second environment does not have. -/
def Env.CutsOff (env other : Env) (reach : Nat) (failure : Failure) : Prop :=
  ∃ limit, env.config.maxDepth = some limit ∧ other.config.maxDepth = none ∧ limit < reach ∧
    failure = .tooDeep limit

theorem FollowsUnless.eq {α : Type} {env : Env} {reach : Nat} {result other : Except Failure α}
    (follows : FollowsUnless (env.CutsOff env reach) result other) : result = other := by
  rcases follows with same | ⟨failure, ⟨limit, limited, unlimited, _⟩, _⟩
  · exact same
  · rw [limited] at unlimited
    cases unlimited

structure Scope.Alike (scope other : Scope) : Prop where
  root : scope.root = other.root
  current : scope.current = other.current
  nesting : scope.nesting = other.nesting

theorem Scope.alike_refl (scope : Scope) : scope.Alike scope := ⟨rfl, rfl, rfl⟩

theorem Scope.root_enter_eq (scope : Scope) (ty : Ty) :
    (scope.enter ty).root = if scope.current.isNone then ty.record? else scope.root := by
  unfold Scope.enter Scope.root Scope.current
  cases scope.trail with
  | nil => rfl
  | cons last trail => rw [List.getLast?_cons_cons]; rfl

theorem Scope.Alike.enter {scope other : Scope} (alike : scope.Alike other) (ty : Ty) :
    (scope.enter ty).Alike (other.enter ty) := by
  refine ⟨?_, rfl, alike.nesting⟩
  rw [Scope.root_enter_eq, Scope.root_enter_eq, alike.root, alike.current]

theorem Scope.Alike.deeper {scope other : Scope} (alike : scope.Alike other) :
    Scope.Alike { scope with nesting := scope.nesting + 1 }
      { other with nesting := other.nesting + 1 } :=
  ⟨alike.root, alike.current, congrArg (· + 1) alike.nesting⟩

theorem Scope.Alike.mayOpen_iff {env other : Env} {scope start : Scope} (alike : scope.Alike start)
    (same : other.config.maxDepth = env.config.maxDepth) :
    MayOpen other start ↔ MayOpen env scope := by
  unfold MayOpen
  rw [same, alike.nesting]

theorem Env.Lifts.mayOpen {env other : Env} {scope start : Scope} (lifts : env.Lifts other)
    (alike : scope.Alike start) (allowed : MayOpen env scope) : MayOpen other start := by
  rcases lifts.limit with same | unlimited
  · exact (alike.mayOpen_iff same).mpr allowed
  · simp [MayOpen, unlimited]

theorem followsUnless_oneDeeper {α : Type} {env other : Env} {reach : Nat} {scope start : Scope}
    {body otherBody : ScopeM α} (lifts : env.Lifts other) (alike : scope.Alike start)
    (room : scope.nesting < reach)
    (inside : FollowsUnless (env.CutsOff other reach)
      (outcome body { scope with nesting := scope.nesting + 1 })
      (outcome otherBody { start with nesting := start.nesting + 1 })) :
    FollowsUnless (env.CutsOff other reach) (outcome (oneDeeper env body) scope)
      (outcome (oneDeeper other otherBody) start) := by
  by_cases allowed : MayOpen env scope
  · rw [outcome_oneDeeper body allowed, outcome_oneDeeper otherBody (lifts.mayOpen alike allowed)]
    exact inside
  · obtain ⟨limit, limited, stopped⟩ := oneDeeper_of_not_mayOpen body allowed
    rw [outcome_of_error stopped]
    rcases lifts.limit with same | unlimited
    · have refused : ¬ MayOpen other start := mt (alike.mayOpen_iff same).mp allowed
      obtain ⟨otherLimit, limitedOther, stoppedOther⟩ :=
        oneDeeper_of_not_mayOpen otherBody refused
      rw [same, limited, Option.some.injEq] at limitedOther
      rw [outcome_of_error stoppedOther, limitedOther]
      exact followsUnless_refl _
    · have reached : limit ≤ scope.nesting := by
        simpa [MayOpen, limited] using allowed
      exact .inr ⟨_, ⟨limit, limited, unlimited, Nat.lt_of_le_of_lt reached room, rfl⟩, rfl⟩

/-- In both contexts the names refer to the same fields. -/
def ContextsAgree (names : List String) (context other : Option Record) : Prop :=
  ∀ name ∈ names, ∀ scope : Scope,
    Referent.ofSegment name true context scope = Referent.ofSegment name true other scope

theorem contextsAgree_refl (names : List String) (context : Option Record) :
    ContextsAgree names context context := fun _ _ _ => rfl

theorem ContextsAgree.enter {names : List String} {context other : Option Record}
    (agree : ContextsAgree names context other) (ty : Ty) :
    ContextsAgree names (ty.record?.or context) (ty.record?.or other) := by
  cases ty with
  | record schema => exact contextsAgree_refl names (some schema)
  | scalar cls => exact agree

theorem Referent.ofSegment_alike {scope start : Scope} (alike : scope.Alike start) (name : String)
    (first : Bool) (context : Option Record) :
    Referent.ofSegment name first context scope = Referent.ofSegment name first context start := by
  unfold Referent.ofSegment
  rw [alike.root, alike.current]

theorem Referent.ofSegment_first {name : String} (bound : isRelative name = false)
    (context other : Option Record) (scope : Scope) :
    Referent.ofSegment name true context scope = Referent.ofSegment name true other scope := by
  unfold Referent.ofSegment
  cases marked : unmark? rootMark name with
  | some bare => rfl
  | none =>
      have self : name = selfReference := by simpa [isRelative, marked] using bound
      simp only [if_pos self]

theorem Referent.ofSegment_agree {names : List String} {name : String}
    {context other : Option Record} {scope start : Scope} (alike : scope.Alike start)
    (agree : ContextsAgree names context other)
    (listed : isRelative name = true → name ∈ names) :
    Referent.ofSegment name true context scope = Referent.ofSegment name true other start := by
  rw [Referent.ofSegment_alike alike]
  cases relative : isRelative name with
  | true => exact agree name (listed relative) start
  | false => exact Referent.ofSegment_first relative context other start

mutual

def Expr.height : Expr → Nat
  | .literal parts | .operator parts | .path parts | .call parts => heightOf parts + 1

def Part.height : Part → Nat
  | .expr inner => inner.height
  | _ => 0

def heightOf : List Part → Nat
  | [] => 0
  | part :: parts => Nat.max part.height (heightOf parts)

end

theorem Expr.height_eq (expr : Expr) : expr.height = heightOf expr.parts + 1 := by
  cases expr <;> rw [Expr.height, Expr.parts]

theorem height_le_of_mem {inner : Expr} {parts : List Part} (member : Part.expr inner ∈ parts) :
    inner.height ≤ heightOf parts := by
  induction parts with
  | nil => cases member
  | cons part parts ih =>
      rw [heightOf]
      rcases List.mem_cons.mp member with rfl | later
      · rw [Part.height]
        exact Nat.le_max_left _ _
      · exact Nat.le_trans (ih later) (Nat.le_max_right _ _)

/-- The expression looks the same from both viewpoints, and no chain of its operations goes beyond
`reach`. -/
structure Expr.SeenAlike (expr : Expr) (reach : Nat) (context other : Option Record)
    (scope start : Scope) : Prop where
  scopes : scope.Alike start
  contexts : ContextsAgree expr.relativeNames context other
  room : scope.nesting + expr.height ≤ reach

section SeenAlike

variable {expr inner : Expr} {reach : Nat} {context other : Option Record} {scope start : Scope}

theorem Expr.SeenAlike.inside (seen : expr.SeenAlike reach context other scope start)
    (member : Part.expr inner ∈ expr.parts) :
    inner.SeenAlike reach context other { scope with nesting := scope.nesting + 1 }
      { start with nesting := start.nesting + 1 } := by
  have names : inner.relativeNames ⊆ expr.relativeNames :=
    List.Subset.trans (relativeNames_of_mem member) expr.relativeNames_parts
  have lower := height_le_of_mem member
  have room := seen.room
  rw [expr.height_eq] at room
  refine ⟨seen.scopes.deeper, fun name listed => seen.contexts name (names listed), ?_⟩
  dsimp only
  omega

theorem Expr.SeenAlike.nesting_lt (seen : expr.SeenAlike reach context other scope start) :
    scope.nesting < reach := by
  have room := seen.room
  rw [expr.height_eq] at room
  omega

end SeenAlike

/-- The steps of a path look the same from both viewpoints. The first segment refers to the same,
and so do the names in a bracket behind it. Of the later brackets only the height is asked: they are
seen from a record that the steps have entered. -/
structure StepsSeenAlike (parts : List Part) (reach : Nat) (first : Bool)
    (context other : Option Record) (scope start : Scope) : Prop where
  scopes : scope.Alike start
  room : ∀ bracket, Part.expr bracket ∈ parts → scope.nesting + bracket.height ≤ reach
  head : ∀ name rest, parts = .segment name :: rest →
    Referent.ofSegment name first context scope = Referent.ofSegment name first other start
  contexts : ∀ name bracket rest field, parts = .segment name :: .expr bracket :: rest →
    Referent.ofSegment name first context scope = .found field →
    ContextsAgree bracket.relativeNames (field.ty.record?.or context) (field.ty.record?.or other)

theorem Expr.SeenAlike.steps {parts : List Part} {reach : Nat} {context other : Option Record}
    {scope start : Scope} (seen : (Expr.path parts).SeenAlike reach context other scope start) :
    StepsSeenAlike parts reach true context other { scope with nesting := scope.nesting + 1 }
      { start with nesting := start.nesting + 1 } := by
  refine ⟨seen.scopes.deeper, fun bracket member => (seen.inside member).room, ?_, ?_⟩
  · rintro name rest rfl
    apply Referent.ofSegment_agree seen.scopes.deeper seen.contexts
    intro relative
    simp [Expr.relativeNames, relative]
  · rintro name bracket rest field rfl _
    exact (seen.inside (by simp [Expr.parts])).contexts.enter field.ty

section StepsSeenAlike

variable {parts rest later : List Part} {reach : Nat} {first : Bool}
  {context other : Option Record} {scope start : Scope} {name : String} {bracket : Expr}
  {field : Field}

theorem StepsSeenAlike.inBracket
    (seen : StepsSeenAlike (.segment name :: .expr bracket :: rest) reach first context other scope
      start)
    (found : Referent.ofSegment name first context scope = .found field) :
    bracket.SeenAlike reach (field.ty.record?.or context) (field.ty.record?.or other)
      (scope.enter field.ty) (start.enter field.ty) :=
  ⟨seen.scopes.enter _, seen.contexts name bracket rest field rfl found,
    seen.room bracket (by simp)⟩

theorem StepsSeenAlike.intoRecord
    (seen : StepsSeenAlike parts reach first context other scope start) (within : later ⊆ parts)
    (schema : Record) :
    StepsSeenAlike later reach false (some schema) (some schema) (scope.enter (.record schema))
      (start.enter (.record schema)) where
  scopes := seen.scopes.enter _
  room bracket member := seen.room bracket (within member)
  head name _ _ := Referent.ofSegment_alike (seen.scopes.enter _) name false (some schema)
  contexts _ _ _ _ _ _ := contextsAgree_refl _ _

end StepsSeenAlike

end TypedPath
