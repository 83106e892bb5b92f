import TypedPath.Typing.Scope

/-! How computations in a scope run: what follows what, how they succeed, and the scope in which
they end. -/

namespace TypedPath

namespace ScopeM

variable {α β : Type}

theorem bind_run (body : ScopeM α) (next : α → ScopeM β) (scope : Scope) :
    (body >>= next) scope =
      match body scope with
      | .ok value after => next value after
      | .error failure after => .error failure after := by
  simp only [bind, EStateM.bind]
  cases body scope <;> rfl

theorem get_bind_run (next : Scope → ScopeM α) (scope : Scope) :
    (get >>= next) scope = next scope scope := rfl

theorem bind_run_of_ok {body : ScopeM α} {scope after : Scope} {value : α}
    (next : α → ScopeM β) (done : body scope = .ok value after) :
    (body >>= next) scope = next value after := by
  rw [bind_run, done]

theorem bind_eq_ok {body : ScopeM α} {next : α → ScopeM β} {scope after : Scope} {value : β} :
    (body >>= next) scope = .ok value after ↔
      ∃ inner middle, body scope = .ok inner middle ∧ next inner middle = .ok value after := by
  rw [bind_run]
  cases run : body scope with
  | ok inner middle => simp [and_assoc]
  | error failure middle => simp

theorem bind_eq_error {body : ScopeM α} {next : α → ScopeM β} {scope after : Scope}
    {failure : Failure} :
    (body >>= next) scope = .error failure after ↔
      body scope = .error failure after ∨
        ∃ inner middle, body scope = .ok inner middle ∧
          next inner middle = .error failure after := by
  rw [bind_run]
  cases run : body scope with
  | ok inner middle => simp [and_assoc]
  | error failure middle => simp

theorem pure_eq_ok {value other : α} {scope after : Scope} :
    (pure value : ScopeM α) scope = .ok other after ↔ value = other ∧ scope = after := by
  simp [pure, EStateM.pure]

theorem lift_eq_ok {result : Except Failure α} {scope after : Scope} {value : α} :
    lift result scope = .ok value after ↔ result = .ok value ∧ scope = after := by
  cases result <;> simp [lift]

theorem lift_eq_error {result : Except Failure α} {scope after : Scope} {failure : Failure} :
    lift result scope = .error failure after ↔ result = .error failure ∧ scope = after := by
  cases result <;> simp [lift]

def MayOpen (env : Env) (scope : Scope) : Prop :=
  match env.config.maxDepth with
  | some limit => scope.nesting < limit
  | none => True

theorem oneDeeper_of_mayOpen {env : Env} {scope : Scope} (body : ScopeM α)
    (allowed : MayOpen env scope) : oneDeeper env body scope = oneDeeper.run body scope := by
  unfold MayOpen at allowed
  unfold oneDeeper
  cases limit : env.config.maxDepth with
  | none => rfl
  | some most =>
      simp only [limit] at allowed ⊢
      rw [if_neg (Nat.not_le.mpr allowed)]

theorem oneDeeper_of_not_mayOpen {env : Env} {scope : Scope} (body : ScopeM α)
    (refused : ¬ MayOpen env scope) :
    ∃ limit, env.config.maxDepth = some limit ∧
      oneDeeper env body scope = .error (.tooDeep limit) scope := by
  unfold MayOpen at refused
  unfold oneDeeper
  cases limit : env.config.maxDepth with
  | none => simp [limit] at refused
  | some most =>
      simp only [limit] at refused ⊢
      exact ⟨most, rfl, if_pos (Nat.not_lt.mp refused)⟩

theorem oneDeeper_eq_ok {env : Env} {body : ScopeM α} {scope after : Scope} {value : α}
    (done : oneDeeper env body scope = .ok value after) :
    MayOpen env scope ∧
      ∃ inner, body { scope with nesting := scope.nesting + 1 } = .ok value inner := by
  by_cases allowed : MayOpen env scope
  · refine ⟨allowed, ?_⟩
    rw [oneDeeper_of_mayOpen body allowed, oneDeeper.run] at done
    split at done
    · rename_i inner run
      cases done
      exact ⟨inner, run⟩
    · cases done
  · obtain ⟨most, _, stopped⟩ := oneDeeper_of_not_mayOpen body allowed
    rw [stopped] at done
    cases done

theorem oneDeeper_eq_error {env : Env} {body : ScopeM α} {scope after : Scope} {failure : Failure}
    (failed : oneDeeper env body scope = .error failure after) :
    (∃ limit, env.config.maxDepth = some limit ∧ failure = .tooDeep limit) ∨
      ∃ inner, body { scope with nesting := scope.nesting + 1 } = .error failure inner := by
  by_cases allowed : MayOpen env scope
  · right
    rw [oneDeeper_of_mayOpen body allowed, oneDeeper.run] at failed
    split at failed
    · cases failed
    · rename_i inner run
      cases failed
      exact ⟨inner, run⟩
  · obtain ⟨most, limited, stopped⟩ := oneDeeper_of_not_mayOpen body allowed
    rw [stopped] at failed
    cases failed
    exact .inl ⟨most, limited, rfl⟩

theorem oneDeeper_of_ok {env : Env} {body : ScopeM α} {scope inner : Scope} {value : α}
    (allowed : MayOpen env scope)
    (done : body { scope with nesting := scope.nesting + 1 } = .ok value inner) :
    ∃ after, oneDeeper env body scope = .ok value after := by
  rw [oneDeeper_of_mayOpen body allowed, oneDeeper.run, done]
  exact ⟨_, rfl⟩

theorem oneDeeper_succeeds {env : Env} {body : ScopeM α} {scope : Scope}
    (allowed : MayOpen env scope)
    (done : ∃ value inner, body { scope with nesting := scope.nesting + 1 } = .ok value inner) :
    ∃ value after, oneDeeper env body scope = .ok value after := by
  obtain ⟨value, inner, run⟩ := done
  exact ⟨value, oneDeeper_of_ok allowed run⟩

theorem leaving_eq_ok {body : ScopeM α} {scope after : Scope} {value : α}
    (done : leaving body scope = .ok value after) : ∃ inner, body scope = .ok value inner := by
  unfold leaving at done
  split at done
  · rename_i inner run
    cases done
    exact ⟨inner, run⟩
  · cases done

theorem leaving_eq_error {body : ScopeM α} {scope after : Scope} {failure : Failure}
    (failed : leaving body scope = .error failure after) :
    ∃ inner, body scope = .error failure inner := by
  unfold leaving at failed
  split at failed
  · cases failed
  · rename_i inner run
    cases failed
    exact ⟨inner, run⟩

theorem leaving_of_ok {body : ScopeM α} {scope inner : Scope} {value : α}
    (done : body scope = .ok value inner) : ∃ after, leaving body scope = .ok value after := by
  rw [leaving, done]
  exact ⟨_, rfl⟩

theorem leaving_succeeds {body : ScopeM α} {scope : Scope}
    (done : ∃ value inner, body scope = .ok value inner) :
    ∃ value after, leaving body scope = .ok value after := by
  obtain ⟨value, inner, run⟩ := done
  exact ⟨value, leaving_of_ok run⟩

/-- The scope in which a computation ends, be it with a value or with a failure. -/
def final (body : ScopeM α) (scope : Scope) : Scope :=
  match body scope with
  | .ok _ after => after
  | .error _ after => after

def Restores (body : ScopeM α) : Prop :=
  ∀ scope, final body scope = scope

/-- All that the computation does to the scope is to enter types. -/
def OnlyEnters (body : ScopeM α) : Prop :=
  ∀ scope, ∃ entered, final body scope = { scope with trail := entered ++ scope.trail }

theorem final_of_ok {body : ScopeM α} {scope after : Scope} {value : α}
    (done : body scope = .ok value after) : final body scope = after := by
  simp [final, done]

theorem final_of_error {body : ScopeM α} {scope after : Scope} {failure : Failure}
    (failed : body scope = .error failure after) : final body scope = after := by
  simp [final, failed]

theorem final_bind (body : ScopeM α) (next : α → ScopeM β) (scope : Scope) :
    final (body >>= next) scope =
      match body scope with
      | .ok value after => final (next value) after
      | .error _ after => after := by
  simp only [final, bind_run]
  cases body scope <;> rfl

theorem restores_pure (value : α) : Restores (pure value) := fun _ => rfl

theorem restores_throw (failure : Failure) : Restores (throw failure : ScopeM α) := fun _ => rfl

theorem restores_lift (result : Except Failure α) : Restores (lift result) := by
  intro scope
  cases result <;> rfl

theorem restores_bind {body : ScopeM α} {next : α → ScopeM β} (first : Restores body)
    (second : ∀ value, Restores (next value)) : Restores (body >>= next) := by
  intro scope
  have start := first scope
  rw [final_bind]
  cases run : body scope with
  | ok value after =>
      have same := (final_of_ok run).symm.trans start
      exact (second value after).trans same
  | error failure after => exact (final_of_error run).symm.trans start

theorem restores_lift_bind {result : Except Failure α} {next : α → ScopeM β}
    (second : ∀ value, result = .ok value → Restores (next value)) :
    Restores (lift result >>= next) := by
  cases result with
  | ok value => exact second value rfl
  | error failure => exact fun _ => rfl

theorem Restores.onlyEnters {body : ScopeM α} (restores : Restores body) : OnlyEnters body :=
  fun scope => ⟨[], restores scope⟩

theorem Restores.after_eq {body : ScopeM α} (restores : Restores body) {scope after : Scope}
    {value : α} (done : body scope = .ok value after) : after = scope :=
  (final_of_ok done).symm.trans (restores scope)

theorem onlyEnters_bind {body : ScopeM α} {next : α → ScopeM β} (first : OnlyEnters body)
    (second : ∀ value, OnlyEnters (next value)) : OnlyEnters (body >>= next) := by
  intro scope
  obtain ⟨entered, start⟩ := first scope
  rw [final_bind]
  cases run : body scope with
  | ok value after =>
      have same := (final_of_ok run).symm.trans start
      obtain ⟨more, finish⟩ := second value after
      refine ⟨more ++ entered, finish.trans ?_⟩
      simp [same]
  | error failure after =>
      exact ⟨entered, (final_of_error run).symm.trans start⟩

theorem restores_get : Restores get := fun _ => rfl

theorem onlyEnters_enter (ty : Ty) : OnlyEnters (enter ty) := fun _ => ⟨[ty], rfl⟩

theorem restores_oneDeeper {env : Env} {body : ScopeM α} (restores : Restores body) :
    Restores (oneDeeper env body) := by
  intro scope
  have inside := restores { scope with nesting := scope.nesting + 1 }
  by_cases allowed : MayOpen env scope
  · simp only [final, oneDeeper_of_mayOpen body allowed, oneDeeper.run] at inside ⊢
    cases run : body { scope with nesting := scope.nesting + 1 } <;> simp_all
  · obtain ⟨most, _, stopped⟩ := oneDeeper_of_not_mayOpen body allowed
    exact final_of_error stopped

theorem restores_leaving {body : ScopeM α} (enters : OnlyEnters body) :
    Restores (leaving body) := by
  intro scope
  obtain ⟨entered, inside⟩ := enters scope
  have left : (final body scope).truncate scope.depth = scope := by
    rw [inside]
    simp [Scope.truncate, Scope.depth]
  unfold final at left
  simp only [final, leaving]
  cases run : body scope <;> simp_all

end ScopeM

end TypedPath
