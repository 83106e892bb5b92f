import TypedPath.Proofs.CheckedPlaces
import TypedPath.Proofs.TwoRuns

/-! What typing and checking see of the types that have been entered: the first, from which absolute
paths start, and the last, which a self reference names. The types between make no difference,
however deep an expression stands in brackets. -/

namespace TypedPath

open ScopeM

theorem Scope.Alike.outcome_eq {scope other : Scope} (alike : scope.Alike other) (env : Env)
    (expr : Expr) (context : Option Record) :
    outcome (expr.infer env context) scope = outcome (expr.infer env context) other ∧
      outcome (expr.check env context) scope = outcome (expr.check env context) other := by
  have seen : expr.SeenAlike (scope.nesting + expr.height) context context scope other :=
    ⟨alike, contextsAgree_refl _ _, Nat.le_refl _⟩
  have typed := expr.infersAlike env.lifts_refl _ _ _ _ seen
  have checked := expr.checksAlike env.lifts_refl _ _ _ _ seen
  exact ⟨typed.eq, checked.eq⟩

structure Scope.RootedAt (root : Option Record) (scope : Scope) : Prop where
  entered : scope.trail ≠ []
  root : scope.root = root

theorem Scope.RootedAt.enter {root : Option Record} {scope : Scope}
    (rooted : scope.RootedAt root) (ty : Ty) : (scope.enter ty).RootedAt root := by
  refine ⟨List.cons_ne_nil _ _, ?_⟩
  have inside : scope.current.isNone = false := by
    simpa [Scope.current] using rooted.entered
  rw [Scope.root_enter_eq, inside]
  exact rooted.root

theorem MeetsBracket.rootedAt {root : Option Record} {first : Bool} {context : Option Record}
    {scope : Scope} {parts : List Part} {place : Place}
    (meets : MeetsBracket first context scope parts place) (rooted : scope.RootedAt root) :
    place.scope.RootedAt root := by
  induction meets with
  | here found => exact rooted.enter _
  | bracketed found shape later ih => exact ih (rooted.enter _)
  | plain step found shape later ih => exact ih (rooted.enter _)

theorem Place.Opens.rootedAt {root : Option Record} {place inner : Place}
    (opens : place.Opens inner) (rooted : place.scope.RootedAt root) :
    inner.scope.RootedAt root := by
  cases opens with
  | operand member => exact ⟨rooted.entered, rooted.root⟩
  | argument member => exact ⟨rooted.entered, rooted.root⟩
  | bracket meets => exact meets.rootedAt ⟨rooted.entered, rooted.root⟩

theorem Place.inside_rootedAt {root : Option Record} {place inner : Place}
    (rooted : place.scope.RootedAt root)
    (within : Relation.ReflTransGen Place.Opens place inner) : inner.scope.RootedAt root := by
  induction within with
  | refl => exact rooted
  | tail _ opens ih => exact opens.rootedAt ih

/-- In scopes of one depth with the same root and the same innermost type an expression is typed and
checked alike. Everything inside of it is typed and checked as from the root at which it starts and
the type that is innermost there. -/
theorem trail_seen_by_its_ends (env : Env) (expr : Expr) (context : Option Record)
    (scope other : Scope) (root : scope.root = other.root) (current : scope.current = other.current)
    (nesting : scope.nesting = other.nesting) :
    outcome (expr.infer env context) scope = outcome (expr.infer env context) other ∧
      outcome (expr.check env context) scope = outcome (expr.check env context) other ∧
      (scope.trail ≠ [] →
        ∀ place, Relation.ReflTransGen Place.Opens ⟨expr, context, scope⟩ place →
          ∀ ends : Scope, ends.root = scope.root → ends.current = place.scope.current →
            ends.nesting = place.scope.nesting →
            outcome (place.expr.infer env place.context) place.scope =
                outcome (place.expr.infer env place.context) ends ∧
              outcome (place.expr.check env place.context) place.scope =
                outcome (place.expr.check env place.context) ends) := by
  have alike : scope.Alike other := ⟨root, current, nesting⟩
  obtain ⟨typed, checked⟩ := alike.outcome_eq env expr context
  refine ⟨typed, checked, ?_⟩
  intro entered place within ends sameRoot sameCurrent sameNesting
  have rooted : place.scope.RootedAt scope.root := Place.inside_rootedAt ⟨entered, rfl⟩ within
  have alike : place.scope.Alike ends :=
    ⟨rooted.root.trans sameRoot.symm, sameCurrent.symm, sameNesting.symm⟩
  exact alike.outcome_eq env place.expr place.context

/-- What is over the limit of the depot: `$this > /limit`. -/
def overDepotLimit : Expr :=
  .operator [.expr (.path [.segment selfReference]), .operator .greater,
    .expr (.path [.segment "/limit"])]

def depotSchema : Record := ⟨"Depot", [⟨"limit", .scalar .long, false, none⟩], false⟩

def binSchema : Record := ⟨"Bin", [⟨"limit", .scalar .string, false, none⟩], false⟩

def inBin : Scope := ⟨[.scalar .long, .record binSchema, .record depotSchema], 3⟩

def inDepot : Scope := ⟨[.scalar .long, .record depotSchema], 3⟩

theorem trail_seen_by_its_ends_overDepotLimit :
    inBin.root = inDepot.root ∧ inBin.current = inDepot.current ∧
      outcome (overDepotLimit.infer .standard none) inBin =
        outcome (overDepotLimit.infer .standard none) inDepot ∧
      outcome (overDepotLimit.check .standard none) inBin =
        outcome (overDepotLimit.check .standard none) inDepot ∧
      outcome ((Expr.path [.segment "/limit"]).infer .standard none) { inBin with nesting := 4 } =
        outcome ((Expr.path [.segment "/limit"]).infer .standard none)
          { inDepot with nesting := 4 } := by
  obtain ⟨typed, checked, inside⟩ :=
    trail_seen_by_its_ends .standard overDepotLimit none inBin inDepot rfl rfl rfl
  have opens : Place.Opens ⟨overDepotLimit, none, inBin⟩
      ⟨.path [.segment "/limit"], none, { inBin with nesting := 4 }⟩ :=
    .operand (by simp)
  have limit := inside (by simp [inBin]) _ (.single opens) { inDepot with nesting := 4 } rfl rfl rfl
  exact ⟨rfl, rfl, typed, checked, limit.1⟩

end TypedPath
