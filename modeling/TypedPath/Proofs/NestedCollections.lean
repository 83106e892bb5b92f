import TypedPath.Eval.Access

/-! Steps into collections. However deep the collections lie in one another, a step reads the field
of each value in them, in order, and puts what it finds side by side. Collections that the fields
hold are opened once; what lies deeper in them stays as it is. -/

namespace TypedPath

mutual

/-- The values that a value is made of when every collection is replaced by its items, to any
depth. -/
def Value.unfolded : Value → List Value
  | .array items => unfoldedItems items
  | single => [single]

def unfoldedItems : List Value → List Value
  | [] => []
  | item :: items => item.unfolded ++ unfoldedItems items

end

def Content.held? (content : Content) (name : String) : Option Value :=
  (content.get? name).or ((unmark? attributeMark name).bind content.get?)

/-- What a value that is no collection adds to a step: nothing where it has no fields or nothing is
set, the items of a collection, and any other value by itself. -/
def Value.contribution (name : String) (leaf : Value) : List Value :=
  match leaf.content?.bind (·.held? name) with
  | none | some .null => []
  | some (.array items) => items
  | some single => [single]

theorem Content.read_eq_held (content : Content) (name : String) :
    content.read name = (content.held? name).getD .null := by
  unfold Content.read Content.held?
  cases content.get? name <;> rfl

theorem unfoldedItems_append (front back : List Value) :
    unfoldedItems (front ++ back) = unfoldedItems front ++ unfoldedItems back := by
  induction front with
  | nil => rfl
  | cons item items ih => simp [unfoldedItems, ih]

namespace Value

theorem gather_read (leaf : Value) {content : Content} (structured : leaf.content? = some content)
    (name : String) (rest : List Value) :
    (content.read name).gather rest = leaf.contribution name ++ rest := by
  rw [content.read_eq_held, contribution, structured, Option.bind_some]
  cases content.held? name with
  | none => rfl
  | some value => cases value <;> rfl

mutual

theorem gather_select (name : String) (rest : List Value) : (value : Value) →
    (value.select name).gather rest = value.unfolded.flatMap (contribution name) ++ rest
  | array items => by
      rw [select, unfolded, gather, selectAll_eq_flatMap name items]
  | object fields => by
      simpa [select, unfolded] using gather_read (object fields) rfl name rest
  | record schema fields => by
      simpa [select, unfolded] using gather_read (record schema fields) rfl name rest
  | null | boolean _ | float _ | integer _ | string _ => rfl

theorem selectAll_eq_flatMap (name : String) : (items : List Value) →
    selectAll name items = (unfoldedItems items).flatMap (contribution name)
  | [] => rfl
  | item :: items => by
      rw [selectAll, selectAll_eq_flatMap name items, gather_select name _ item, unfoldedItems,
        List.flatMap_append]

end

end Value

/-- A step into a collection gives the contributions of all values in it, in their order and however
deep they lie. So the step sees nothing of a collection but the sequence of these values, and the
step into two collections behind one another gives what it gives in the one and then in the
other. -/
theorem step_gathers_contributions (name : String) (items others : List Value) :
    (Value.array items).select name =
        .array ((unfoldedItems items).flatMap (Value.contribution name)) ∧
      (unfoldedItems items = unfoldedItems others →
        (Value.array items).select name = (Value.array others).select name) ∧
      ∃ front back, (Value.array items).select name = .array front ∧
        (Value.array others).select name = .array back ∧
        (Value.array (items ++ others)).select name = .array (front ++ back) := by
  have step (values : List Value) : (Value.array values).select name =
      .array ((unfoldedItems values).flatMap (Value.contribution name)) := by
    rw [Value.select, Value.selectAll_eq_flatMap]
  refine ⟨step items, ?_, _, _, step items, step others, ?_⟩
  · intro same
    rw [step, step, same]
  · rw [step, unfoldedItems_append, List.flatMap_append]

def boxedBooks : List Value :=
  [.array [.object [("author", .array [.string "Ada", .null, .array [.string "Eve"]])], .null],
    .array [.array [.object [("@author", .string "Bob")], .object [("author", .string "Cid")]]],
    .integer 7, .object [("author", .null)]]

def openBooks : List Value :=
  [.object [("author", .array [.string "Ada", .null, .array [.string "Eve"]])], .null,
    .object [("@author", .string "Bob")], .object [("author", .string "Cid")], .integer 7,
    .object [("author", .null)]]

theorem step_gathers_contributions_boxedBooks :
    unfoldedItems boxedBooks = unfoldedItems openBooks ∧
      (Value.array boxedBooks).select "@author" = (Value.array openBooks).select "@author" ∧
      (Value.array boxedBooks).select "@author" =
        .array [.string "Ada", .null, .array [.string "Eve"], .string "Bob", .string "Cid"] := by
  have same : unfoldedItems boxedBooks = unfoldedItems openBooks := rfl
  have found := step_gathers_contributions "@author" boxedBooks openBooks
  exact ⟨same, found.2.1 same, found.1⟩

end TypedPath
