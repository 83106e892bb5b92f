import TypedPath.Schema.ValueClass

/-! Accepting and converting classes. The rules of both are stated one by one, whatever the order in
which they are tried. Accepting is a partial order with `object` on top, and converting respects it:
what a class accepts converts to it, and a more special class converts wherever a more general one
does. -/

namespace TypedPath.ValueClass

/-- The rules by which a value of the second class may stand where the first is declared. -/
inductive Accepts : ValueClass → ValueClass → Prop where
  | same (cls : ValueClass) : Accepts cls cls
  | anything (given : ValueClass) : Accepts object given
  | number {given : ValueClass} (isNumber : given.isNumber = true) : Accepts number given
  | list {declared given : ValueClass} (items : Accepts declared given) :
      Accepts (list declared) (list given)
  | array {declared given : ValueClass} (items : Accepts declared given) :
      Accepts (array declared) (array given)

/-- The rules by which values of the first class convert to the second. -/
inductive Converts : ValueClass → ValueClass → Prop where
  | accepted {given wanted : ValueClass} (accepts : Accepts wanted given) : Converts given wanted
  | numbers {given wanted : ValueClass} (fromNumber : given.isNumber = true)
      (toNumber : wanted.isNumber = true) : Converts given wanted
  | written {given : ValueClass} (comparable : given.isComparable = true) : Converts given string
  | parsed {wanted : ValueClass}
      (readable : (wanted.isNumber = true ∨ wanted = boolean) ∨ wanted = date) :
      Converts string wanted
  | elapsed : Converts date long
  | dated : Converts long date
  | collection {given wanted givenItem wantedItem : ValueClass}
      (fromItems : given.component? = some givenItem)
      (toItems : wanted.component? = some wantedItem)
      (items : Converts givenItem wantedItem) : Converts given wanted

theorem accepts_self (cls : ValueClass) : cls.accepts cls = true := by
  induction cls with
  | list component ih | array component ih => simpa [accepts] using ih
  | _ => rfl

theorem accepts_iff (declared given : ValueClass) :
    declared.accepts given = true ↔ Accepts declared given := by
  constructor
  · intro accepted
    fun_induction accepts declared given with
    | case1 given => exact .anything given
    | case2 given => exact .number accepted
    | case3 declared given ih => exact .list (ih accepted)
    | case4 declared given ih => exact .array (ih accepted)
    | case5 declared given =>
        obtain rfl := eq_of_beq accepted
        exact .same declared
  · intro rule
    induction rule with
    | same cls => exact cls.accepts_self
    | anything given => rfl
    | number isNumber => exact isNumber
    | list items ih | array items ih => exact ih

namespace Accepts

theorem eq_of_comparable {declared given : ValueClass} (accepts : Accepts declared given)
    (comparable : declared.isComparable = true) : given = declared := by
  cases accepts with
  | same => rfl
  | anything | number | list | array => cases comparable

theorem isNumber {declared given : ValueClass} (accepts : Accepts declared given)
    (general : declared.isNumber = true) : given.isNumber = true := by
  cases accepts with
  | same => exact general
  | number special => exact special
  | anything | list | array => cases general

theorem component {declared given item : ValueClass} (accepts : Accepts declared given)
    (items : declared.component? = some item) :
    ∃ special, given.component? = some special ∧ Accepts item special := by
  cases accepts with
  | same => exact ⟨item, items, .same item⟩
  | list inner | array inner =>
      obtain rfl := Option.some.inj items
      exact ⟨_, rfl, inner⟩
  | anything | number => cases items

theorem trans {general middle special : ValueClass} (upper : Accepts general middle)
    (lower : Accepts middle special) : Accepts general special := by
  induction upper generalizing special with
  | same => exact lower
  | anything => exact .anything special
  | number isNumber => exact .number (lower.isNumber isNumber)
  | list items ih =>
      cases lower with
      | same => exact .list items
      | list inner => exact .list (ih inner)
  | array items ih =>
      cases lower with
      | same => exact .array items
      | array inner => exact .array (ih inner)

theorem antisymm {first second : ValueClass} (upper : Accepts first second)
    (lower : Accepts second first) : first = second := by
  induction upper with
  | same => rfl
  | anything =>
      cases lower with
      | same | anything => rfl
      | number isNumber => cases isNumber
  | number isNumber =>
      cases lower with
      | same | number => rfl
      | anything => cases isNumber
  | list items ih =>
      cases lower with
      | same => rfl
      | list inner => rw [ih inner]
  | array items ih =>
      cases lower with
      | same => rfl
      | array inner => rw [ih inner]

end Accepts

theorem convertsTo_of_accepts {given wanted : ValueClass} (accepts : wanted.accepts given = true) :
    given.convertsTo wanted = true := by
  unfold convertsTo
  rw [accepts, Bool.true_or, Bool.true_or]

theorem convertsTo_of_components {given wanted givenItem wantedItem : ValueClass}
    (fromItems : given.component? = some givenItem)
    (toItems : wanted.component? = some wantedItem) :
    given.convertsTo wanted = true ↔ givenItem.convertsTo wantedItem = true := by
  constructor
  · intro converts
    by_cases accepts : wanted.accepts given = true
    · obtain ⟨item, items, inner⟩ := ((accepts_iff _ _).mp accepts).component toItems
      obtain rfl := Option.some.inj (fromItems.symm.trans items)
      exact convertsTo_of_accepts ((accepts_iff _ _).mpr inner)
    · cases given <;> cases fromItems <;> cases wanted <;> cases toItems <;>
        simpa [convertsTo, accepts, isNumber] using converts
  · intro items
    cases given <;> cases fromItems <;> cases wanted <;> cases toItems <;>
      simp [convertsTo, items]

theorem isBoolean_iff (cls : ValueClass) : cls.isBoolean = true ↔ cls = boolean := by
  cases cls <;> simp [isBoolean]

theorem convertsTo_iff (given wanted : ValueClass) :
    given.convertsTo wanted = true ↔ Converts given wanted := by
  constructor
  · intro converts
    fun_induction convertsTo given wanted with
    | case1 given wanted ih =>
        rw [Bool.or_eq_true, Bool.or_eq_true, Bool.and_eq_true, accepts_iff] at converts
        rcases converts with (accepts | ⟨fromNumber, toNumber⟩) | rule
        · exact .accepted accepts
        · exact .numbers fromNumber toNumber
        · split at rule
          · exact .written rule
          · simp only [Bool.or_eq_true, beq_iff_eq, isBoolean_iff] at rule
            exact .parsed rule
          · exact .elapsed
          · exact .dated
          · exact .collection rfl rfl (ih rule)
          · exact .collection rfl rfl (ih rule)
          · exact .collection rfl rfl (ih rule)
          · exact .collection rfl rfl (ih rule)
          · cases rule
  · intro rule
    induction rule with
    | accepted accepts => exact convertsTo_of_accepts ((accepts_iff _ _).mpr accepts)
    | numbers fromNumber toNumber =>
        unfold convertsTo
        simp [fromNumber, toNumber]
    | written comparable => simp [convertsTo, comparable]
    | @parsed wanted readable =>
        rcases readable with (toNumber | rfl) | rfl
        · cases wanted with
          | integer | long | float | double | decimal | number => rfl
          | _ => cases toNumber
        · rfl
        · rfl
    | elapsed | dated => rfl
    | collection fromItems toItems items ih =>
        exact (convertsTo_of_components fromItems toItems).mpr ih

theorem Converts.special {general special wanted : ValueClass} (converts : Converts general wanted)
    (accepts : Accepts general special) : Converts special wanted := by
  -- Comparable classes are as special as can be, so only numbers and collections need an argument.
  induction converts generalizing special with
  | accepted upper => exact .accepted (upper.trans accepts)
  | numbers fromNumber toNumber => exact .numbers (accepts.isNumber fromNumber) toNumber
  | written comparable =>
      obtain rfl := accepts.eq_of_comparable comparable
      exact .written comparable
  | parsed readable =>
      obtain rfl := accepts.eq_of_comparable rfl
      exact .parsed readable
  | elapsed =>
      obtain rfl := accepts.eq_of_comparable rfl
      exact .elapsed
  | dated =>
      obtain rfl := accepts.eq_of_comparable rfl
      exact .dated
  | collection fromItems toItems items ih =>
      obtain ⟨specialItem, specialItems, inner⟩ := accepts.component fromItems
      exact .collection specialItems toItems (ih inner)

/-- Accepting is a partial order of the classes with `object` on top. A class converts to all that
accept it, collections of either shape convert just when their items do, and a class converts
wherever one does that accepts it. -/
theorem conversion_respects_class_order :
    (∀ cls : ValueClass, cls.accepts cls = true) ∧
      (∀ general middle special : ValueClass, general.accepts middle = true →
        middle.accepts special = true → general.accepts special = true) ∧
      (∀ first second : ValueClass, first.accepts second = true → second.accepts first = true →
        first = second) ∧
      (∀ cls : ValueClass, object.accepts cls = true) ∧
      (∀ given wanted : ValueClass, wanted.accepts given = true →
        given.convertsTo wanted = true) ∧
      (∀ given wanted givenItem wantedItem : ValueClass, given.component? = some givenItem →
        wanted.component? = some wantedItem →
          (given.convertsTo wanted = true ↔ givenItem.convertsTo wantedItem = true)) ∧
      ∀ general special wanted : ValueClass, general.convertsTo wanted = true →
        general.accepts special = true → special.convertsTo wanted = true := by
  refine ⟨accepts_self, ?_, ?_, ?_, ?_, ?_, ?_⟩
  · intro general middle special upper lower
    rw [accepts_iff] at upper lower ⊢
    exact upper.trans lower
  · intro first second upper lower
    rw [accepts_iff] at upper lower
    exact upper.antisymm lower
  · intro cls
    exact (accepts_iff object cls).mpr (.anything cls)
  · intro given wanted accepts
    exact convertsTo_of_accepts accepts
  · intro given wanted givenItem wantedItem fromItems toItems
    exact convertsTo_of_components fromItems toItems
  · intro general special wanted converts accepts
    rw [convertsTo_iff] at converts ⊢
    rw [accepts_iff] at accepts
    exact converts.special accepts

theorem conversion_respects_class_order_integerLists :
    (list object).accepts (list integer) = true ∧
      (list integer).convertsTo (list object) = true ∧
      ((list number).convertsTo (array decimal) = true ↔ number.convertsTo decimal = true) ∧
      (list (list integer)).convertsTo (array (array decimal)) = true := by
  obtain ⟨-, trans, -, -, accepted, collections, special⟩ := conversion_respects_class_order
  have numbers : (list object).accepts (list number) = true := rfl
  have integers : (list number).accepts (list integer) = true := rfl
  have anything := trans _ _ _ numbers integers
  exact ⟨anything, accepted _ _ anything, collections _ _ _ _ rfl rfl,
    special (list (list number)) _ _ rfl rfl⟩

end TypedPath.ValueClass
