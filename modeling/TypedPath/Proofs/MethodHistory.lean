import TypedPath.Method.Registry

/-! What a registry remembers of the methods that were registered. Under each name there is at most
one method for each number of arguments, the last one registered, so the order of two registrations
counts only where one replaces the other. -/

namespace TypedPath.Registry

def overloads (registry : Registry) (name : String) : List Signature :=
  registry.signatures.filter (·.name == name)

def registerAll (registry : Registry) (history : List Signature) : Registry :=
  history.foldl register registry

theorem registerAll_cons (registry : Registry) (signature : Signature) (history : List Signature) :
    registry.registerAll (signature :: history) =
      (registry.register signature).registerAll history := rfl

/-- The last method of that name and arity among those that were registered. -/
def latest? (history : List Signature) (name : String) (arity : Nat) : Option Signature :=
  history.reverse.find? fun signature => signature.name == name && signature.arity == arity

theorem resolve_of_overloads (registry : Registry) (name : String) (arity : Nat) :
    registry.resolve name arity =
      if (registry.overloads name).isEmpty then .error (.notFound name)
      else
        match (registry.overloads name).find? (·.arity == arity) with
        | some signature => .ok signature
        | none => .error (.arity name arity) := rfl

section Step

variable (registry : Registry) (signature : Signature) (name : String)

theorem overloads_register :
    (registry.register signature).overloads name =
      if signature.name = name then
        (registry.overloads name).filter (·.arity != signature.arity) ++ [signature]
      else registry.overloads name := by
  simp only [overloads, register, others, List.filter_append, List.filter_filter]
  by_cases same : signature.name = name
  · have named : List.filter (·.name == name) [signature] = [signature] := by simp [same]
    rw [if_pos same, named]
    congr 1
    apply List.filter_congr
    intro old _
    by_cases sameOld : old.name = name
    · simp [same, sameOld]
    · simp [beq_false_of_ne sameOld]
  · have unnamed : List.filter (·.name == name) [signature] = [] := by simp [same]
    rw [if_neg same, unnamed, List.append_nil]
    apply List.filter_congr
    intro old _
    by_cases sameOld : old.name = name
    · simp [sameOld, Ne.symm same]
    · simp [beq_false_of_ne sameOld]

theorem find_overloads_register (arity : Nat) :
    ((registry.register signature).overloads name).find? (·.arity == arity) =
      if signature.name = name ∧ signature.arity = arity then some signature
      else (registry.overloads name).find? (·.arity == arity) := by
  rw [overloads_register]
  by_cases sameName : signature.name = name
  · rw [if_pos sameName, List.find?_append, List.find?_filter, List.find?_singleton]
    by_cases sameArity : signature.arity = arity
    · have replaced : (registry.overloads name).find? (fun old =>
          decide ((old.arity != signature.arity) = true ∧ (old.arity == arity) = true)) = none := by
        simp [List.find?_eq_none, sameArity]
      rw [replaced]
      simp [sameName, sameArity]
    · have kept : (fun old : Signature =>
          decide ((old.arity != signature.arity) = true ∧ (old.arity == arity) = true)) =
          (·.arity == arity) := by
        funext old
        by_cases found : old.arity = arity
        · simp [found, Ne.symm sameArity]
        · simp [found]
      rw [kept]
      simp [sameArity]
  · rw [if_neg sameName, if_neg (fun both => sameName both.1)]

theorem overloads_register_isEmpty :
    ((registry.register signature).overloads name).isEmpty =
      (signature.name != name && (registry.overloads name).isEmpty) := by
  rw [overloads_register]
  by_cases same : signature.name = name <;> simp [same]

end Step

theorem nodup_arities (registry : Registry) (name : String) :
    ((registry.overloads name).map Signature.arity).Nodup := by
  rw [List.Nodup, List.pairwise_map]
  have distinct : (registry.overloads name).Pairwise Signature.Differs :=
    registry.distinct.sublist List.filter_sublist
  apply distinct.imp_of_mem
  intro signature other first second differs
  have sameName : signature.name = other.name := by
    rw [eq_of_beq (List.mem_filter.mp first).2, eq_of_beq (List.mem_filter.mp second).2]
  exact differs.resolve_left (not_not_intro sameName)

section Run

variable (registry : Registry) (history : List Signature) (name : String)

theorem find_overloads_registerAll (arity : Nat) :
    ((registry.registerAll history).overloads name).find? (·.arity == arity) =
      (latest? history name arity).or
        ((registry.overloads name).find? (·.arity == arity)) := by
  induction history generalizing registry with
  | nil => rfl
  | cons signature history ih =>
      rw [registerAll_cons, ih, find_overloads_register, latest?, latest?, List.reverse_cons,
        List.find?_append, Option.or_assoc, List.find?_singleton]
      -- The rest of the history is newer, so its answer comes first.
      by_cases same : signature.name = name ∧ signature.arity = arity
      · simp [same]
      · rw [if_neg same]
        simp [same]

theorem overloads_registerAll_isEmpty :
    ((registry.registerAll history).overloads name).isEmpty =
      (history.all (·.name != name) && (registry.overloads name).isEmpty) := by
  induction history generalizing registry with
  | nil => rfl
  | cons signature history ih =>
      rw [registerAll_cons, ih, overloads_register_isEmpty, List.all_cons, ← Bool.and_assoc,
        Bool.and_comm (history.all _)]

theorem resolve_registerAll (arity : Nat) :
    (empty.registerAll history).resolve name arity =
      if history.all (·.name != name) then .error (.notFound name)
      else
        match latest? history name arity with
        | some signature => .ok signature
        | none => .error (.arity name arity) := by
  have nothing : empty.overloads name = [] := rfl
  rw [resolve_of_overloads, overloads_registerAll_isEmpty, find_overloads_registerAll, nothing]
  simp

end Run

section History

variable {history : List Signature} {name : String} {arity : Nat}

theorem latest_eq_none_iff : latest? history name arity = none ↔
    ∀ signature ∈ history, signature.name = name → signature.arity ≠ arity := by
  simp [latest?, List.find?_eq_none]

theorem resolve_registerAll_cases (history : List Signature) (name : String) (arity : Nat) :
    ((∀ registered ∈ history, registered.name ≠ name) ∧ latest? history name arity = none ∧
        (empty.registerAll history).resolve name arity = .error (.notFound name)) ∨
      (∃ registered ∈ history, registered.name = name) ∧
        (latest? history name arity = none ∧
            (empty.registerAll history).resolve name arity = .error (.arity name arity) ∨
          ∃ signature, latest? history name arity = some signature ∧
            (empty.registerAll history).resolve name arity = .ok signature) := by
  rw [resolve_registerAll]
  cases never : history.all (·.name != name) with
  | true =>
      have unnamed : ∀ registered ∈ history, registered.name ≠ name := by simpa using never
      have absent : latest? history name arity = none :=
        latest_eq_none_iff.mpr fun registered member same => absurd same (unnamed registered member)
      exact .inl ⟨unnamed, absent, rfl⟩
  | false =>
      have named : ∃ registered ∈ history, registered.name = name := by simpa using never
      refine .inr ⟨named, ?_⟩
      cases latest? history name arity with
      | none => exact .inl ⟨rfl, rfl⟩
      | some signature => exact .inr ⟨signature, rfl, rfl⟩

theorem latest_swap {first second : Signature} (before after : List Signature)
    (different : first.name ≠ second.name ∨ first.arity ≠ second.arity) :
    latest? (before ++ first :: second :: after) name arity =
      latest? (before ++ second :: first :: after) name arity := by
  have notBoth : ¬((first.name = name ∧ first.arity = arity) ∧
      (second.name = name ∧ second.arity = arity)) := by
    rintro ⟨⟨rfl, rfl⟩, sameName, sameArity⟩
    exact different.elim (· sameName.symm) (· sameArity.symm)
  simp only [latest?, List.reverse_append, List.reverse_cons, List.append_assoc, List.find?_append,
    List.find?_singleton, Bool.and_eq_true, beq_iff_eq]
  by_cases found : first.name = name ∧ first.arity = arity
  · rw [if_neg (fun foundSecond => notBoth ⟨found, foundSecond⟩), Option.none_or, Option.none_or]
  · rw [if_neg found, Option.none_or, Option.none_or]

end History

/-- After any registrations each name has at most one method for each number of arguments. The
method found is the last one that was registered under the name with that arity. Without one, the
arity is at fault if the name was registered at all, and the name is not found just when it never
was. Two registrations in a row can change places unless they agree in both name and arity. -/
theorem registry_finds_last_registered (history : List Signature) :
    (∀ name, (((empty.registerAll history).overloads name).map Signature.arity).Nodup) ∧
      (∀ name arity signature,
        (empty.registerAll history).resolve name arity = .ok signature ↔
          latest? history name arity = some signature) ∧
      (∀ name arity,
        (empty.registerAll history).resolve name arity = .error (.arity name arity) ↔
          (∃ registered ∈ history, registered.name = name) ∧
            ∀ registered ∈ history, registered.name = name → registered.arity ≠ arity) ∧
      (∀ name arity,
        (empty.registerAll history).resolve name arity = .error (.notFound name) ↔
          ∀ registered ∈ history, registered.name ≠ name) ∧
      ∀ before first second after, history = before ++ first :: second :: after →
        (first.name ≠ second.name ∨ first.arity ≠ second.arity) → ∀ name arity,
          (empty.registerAll history).resolve name arity =
            (empty.registerAll (before ++ second :: first :: after)).resolve name arity := by
  refine ⟨(empty.registerAll history).nodup_arities, ?_, ?_, ?_, ?_⟩
  · intro name arity signature
    obtain ⟨-, absent, answer⟩ | ⟨-, ⟨absent, answer⟩ | ⟨last, found, answer⟩⟩ :=
      resolve_registerAll_cases history name arity
    · simp [answer, absent]
    · simp [answer, absent]
    · simp [answer, found]
  · intro name arity
    rw [← latest_eq_none_iff]
    obtain ⟨never, absent, answer⟩ | ⟨named, ⟨absent, answer⟩ | ⟨last, found, answer⟩⟩ :=
      resolve_registerAll_cases history name arity
    · simpa [answer, absent] using never
    · simpa [answer, absent] using named
    · simp [answer, found]
  · intro name arity
    obtain ⟨never, -, answer⟩ | ⟨named, ⟨-, answer⟩ | ⟨last, -, answer⟩⟩ :=
      resolve_registerAll_cases history name arity
    · simpa [answer] using never
    · simpa [answer] using named
    · simpa [answer] using named
  · rintro before first second after rfl different name arity
    rw [resolve_registerAll, resolve_registerAll, latest_swap before after different]
    simp [Bool.and_left_comm]

def pad : Signature :=
  ⟨"pad", [⟨.string, false⟩, ⟨.integer, true⟩], .value .string, none⟩

def padWith : Signature :=
  ⟨"pad", [⟨.string, false⟩, ⟨.integer, true⟩, ⟨.string, false⟩], .value .string, none⟩

def padAnew : Signature :=
  ⟨"pad", [⟨.string, false⟩, ⟨.number, false⟩], .value .string, none⟩

theorem registry_finds_last_registered_pads :
    (empty.registerAll [pad, padWith, padAnew]).resolve "pad" 2 = .ok padAnew ∧
      (empty.registerAll [pad, padWith, padAnew]).resolve "pad" 1 = .error (.arity "pad" 1) ∧
      (empty.registerAll [pad, padWith, padAnew]).resolve "trim" 1 = .error (.notFound "trim") ∧
      padWith.arity ≠ padAnew.arity ∧
      (empty.registerAll [pad, padAnew, padWith]).resolve "pad" 2 = .ok padAnew := by
  obtain ⟨-, found, misfit, unknown, swap⟩ :=
    registry_finds_last_registered [pad, padWith, padAnew]
  have last := (found "pad" 2 padAnew).mpr rfl
  have different : padWith.arity ≠ padAnew.arity := by decide
  refine ⟨last, (misfit "pad" 1).mpr ?_, (unknown "trim" 1).mpr ?_, different, ?_⟩
  · exact ⟨⟨pad, by simp, rfl⟩, by simp [pad, padWith, padAnew, Signature.arity]⟩
  · simp [pad, padWith, padAnew]
  · exact (swap [pad] padWith padAnew [] rfl (.inr different) "pad" 2).symm.trans last

end TypedPath.Registry
