/-! Values under names: the last value given to a name counts, and names stand in the order in which
they were first given. -/

namespace TypedPath

def lookupField {α : Type} (name : String) : List (String × α) → Option α
  | [] => none
  | (key, value) :: rest => if key = name then some value else lookupField name rest

def putField {α : Type} (name : String) (value : α) : List (String × α) → List (String × α)
  | [] => [(name, value)]
  | (key, old) :: rest =>
    if key = name then (name, value) :: rest else (key, old) :: putField name value rest

def putFields {α : Type} (fields : List (String × α)) (given : List (String × α)) :
    List (String × α) :=
  given.foldl (fun fields (name, value) => putField name value fields) fields

theorem mem_putField {α : Type} {name : String} {value : α} {fields : List (String × α)}
    {field : String × α} (member : field ∈ putField name value fields) :
    field = (name, value) ∨ field ∈ fields := by
  induction fields with
  | nil => exact .inl (List.mem_singleton.mp member)
  | cons first rest ih =>
      rw [putField] at member
      split at member
      · exact (List.mem_cons.mp member).imp_right (List.mem_cons_of_mem _)
      · rcases List.mem_cons.mp member with same | later
        · exact .inr (same ▸ List.mem_cons_self)
        · exact (ih later).imp_right (List.mem_cons_of_mem _)

theorem nodup_putField {α : Type} (name : String) (value : α) {fields : List (String × α)}
    (distinct : (fields.map Prod.fst).Nodup) :
    ((putField name value fields).map Prod.fst).Nodup := by
  induction fields with
  | nil => simp [putField]
  | cons field rest ih =>
      obtain ⟨key, old⟩ := field
      rw [List.map_cons, List.nodup_cons] at distinct
      rw [putField]
      split
      · rename_i same
        exact List.nodup_cons.mpr ⟨same ▸ distinct.1, distinct.2⟩
      · rename_i different
        refine List.nodup_cons.mpr ⟨?_, ih distinct.2⟩
        intro listed
        obtain ⟨field, member, rfl⟩ := List.mem_map.mp listed
        rcases mem_putField member with rfl | before
        · exact different rfl
        · exact distinct.1 (List.mem_map.mpr ⟨field, before, rfl⟩)

theorem mem_putFields {α : Type} {fields given : List (String × α)} {field : String × α}
    (member : field ∈ putFields fields given) : field ∈ fields ∨ field ∈ given := by
  induction given generalizing fields with
  | nil => exact .inl member
  | cons first rest ih =>
      rcases ih member with put | later
      · rcases mem_putField put with rfl | before
        · exact .inr List.mem_cons_self
        · exact .inl before
      · exact .inr (List.mem_cons_of_mem _ later)

theorem nodup_putFields {α : Type} {fields : List (String × α)} (given : List (String × α))
    (distinct : (fields.map Prod.fst).Nodup) :
    ((putFields fields given).map Prod.fst).Nodup := by
  induction given generalizing fields with
  | nil => exact distinct
  | cons first rest ih => exact ih (nodup_putField first.1 first.2 distinct)

end TypedPath
