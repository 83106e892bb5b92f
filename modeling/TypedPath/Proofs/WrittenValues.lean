import TypedPath.Proofs.StoredIndexes

/-! The values that are written out as texts on the way to the value of an expression or to a
storage path. Nowhere else does the order show in which a text lists the fields of an object, and it
shows only if there is more than one. -/

namespace TypedPath

mutual

/-- No object or record inside has two fields that a text could list in another order. -/
def Value.hasOneText : Value → Bool
  | .array items => itemsHaveOneText items
  | .object fields => fields.length ≤ 1 && fieldsHaveOneText fields
  | .record _ fields => fields.length ≤ 1 && fieldsHaveOneText fields
  | _ => true

def itemsHaveOneText : List Value → Bool
  | [] => true
  | item :: items => item.hasOneText && itemsHaveOneText items

def fieldsHaveOneText : List (String × Value) → Bool
  | [] => true
  | (_, value) :: fields => value.hasOneText && fieldsHaveOneText fields

end

def onSuccess {ε α : Type} (result : Except ε α) (next : α → List Value) : List Value :=
  match result with
  | .ok value => next value
  | .error _ => []

def Operator.writtenOut (op : Operator) (left right : Value) : List Value :=
  match op, left, right with
  | .add, .string _, _ => [right]
  | .like, _, .string source | .unlike, _, .string source =>
    if (Pattern.whole? source).isSome then [left] else []
  | _, _, _ => []

/-- The items that a filter looks at: all up to the first on which the test fails. -/
def triedItems (test : Value → Except EvalError Value) : List Value → List Value
  | [] => []
  | item :: items => item :: onSuccess (test item) fun _ => triedItems test items

mutual

/-- The values whose texts are taken while an expression is evaluated. -/
def Expr.writtenOut (env : Env) (frame : Frame) : Expr → List Value
  | .operator parts => writtenByOperator env frame parts
  | .path (.segment name :: steps) => writtenBySteps env frame (frame.read name) steps
  | .call (method :: arguments) =>
    onSuccess (implementation? env (method :: arguments)) fun _ =>
      writtenByArguments env frame arguments
  | _ => []
termination_by structural expr => expr

def Part.writtenOut (env : Env) (frame : Frame) : Part → List Value
  | .expr expr => expr.writtenOut env frame
  | _ => []
termination_by structural part => part

def writtenByOperator (env : Env) (frame : Frame) : List Part → List Value
  | [] => []
  | .operator op :: rest =>
    writtenByFirst env frame rest ++ onSuccess (evalFirst env frame rest) (op.writtenOut .null)
  | left :: .operator op :: rest =>
    left.writtenOut env frame ++ onSuccess (left.eval env frame) fun value =>
      writtenByFirst env frame rest ++ onSuccess (evalFirst env frame rest) (op.writtenOut value)
  | _ :: rest => writtenByOperator env frame rest
termination_by structural parts => parts

def writtenByFirst (env : Env) (frame : Frame) : List Part → List Value
  | [] => []
  | part :: _ => part.writtenOut env frame
termination_by structural parts => parts

def writtenByArguments (env : Env) (frame : Frame) : List Part → List Value
  | [] => []
  | part :: parts =>
    part.writtenOut env frame ++ onSuccess (part.eval env frame) fun _ =>
      writtenByArguments env frame parts
termination_by structural parts => parts

def writtenBySteps (env : Env) (frame : Frame) (value : Value) : List Part → List Value
  | .segment name :: steps => writtenBySteps env frame (value.select name) steps
  | .expr bracket :: steps =>
    if bracket.isCondition then
      (triedItems (fun item => bracket.eval env (frame.forItem item)) value.filterItems).flatMap
          (fun item => bracket.writtenOut env (frame.forItem item)) ++
        onSuccess (keepItems (fun item => bracket.eval env (frame.forItem item)) value.filterItems)
          fun kept => writtenBySteps env frame (.array kept) steps
    else
      bracket.writtenOut env frame ++ onSuccess (bracket.eval env frame) fun index =>
        onSuccess (value.item index) fun item => writtenBySteps env frame item steps
  | _ => []
termination_by structural parts => parts

end

/-- What the index of a bracket writes out: what its evaluation does, and a value that is no index,
for the failure to tell of it. -/
def Expr.writtenAsIndex (env : Env) (root content : Content) (bracket : Expr) : List Value :=
  if bracket.isCondition then []
  else
    bracket.writtenOut env ⟨root, content, none⟩ ++
      onSuccess (bracket.eval env ⟨root, content, none⟩) fun value =>
        if value.index?.isNone then [value] else []

def writtenByPlaces (env : Env) (root content : Content) (known : Bool) : List Part → List Value
  | .segment name :: .expr bracket :: rest =>
    bracket.writtenAsIndex env root content ++
      onSuccess (storageIndex env root content bracket) fun index =>
        let behind := enclosingAfter content (storedItem? (storedAt content known name) index)
        writtenByPlaces env root behind.1 behind.2 rest
  | .segment name :: rest =>
    let behind := enclosingAfter content (storedAt content known name)
    writtenByPlaces env root behind.1 behind.2 rest
  | _ => []

def Expr.writtenInPlaces (env : Env) (content : Content) : Expr → List Value
  | .path parts => writtenByPlaces env content content true parts
  | _ => []

theorem writtenByOperator_binary {env : Env} {frame : Frame} {rest : List Part} {left : Part}
    {op : Operator} (operand : ∀ op, left ≠ .operator op) :
    writtenByOperator env frame (left :: .operator op :: rest) =
      left.writtenOut env frame ++ onSuccess (left.eval env frame) fun value =>
        writtenByFirst env frame rest ++
          onSuccess (evalFirst env frame rest) (op.writtenOut value) := by
  rw [writtenByOperator]
  exact operand

theorem writtenByOperator_skip {env : Env} {frame : Frame} {rest : List Part} {part : Part}
    (operand : ∀ op, part ≠ .operator op) (behind : ∀ op after, rest ≠ .operator op :: after) :
    writtenByOperator env frame (part :: rest) = writtenByOperator env frame rest := by
  rw [writtenByOperator]
  · exact operand
  · exact behind

section Texts

variable {listing other : Listing}

theorem Listing.arrange_short (listing : Listing) {members : List String}
    (short : members.length ≤ 1) : listing.arrange members = members := by
  have same := listing.perm members
  match members with
  | [] => exact same.eq_nil
  | [member] => exact List.perm_singleton.mp same
  | _ :: _ :: _ => simp at short

theorem memberDescriptions_length (listing : Listing) (fields : List (String × Value)) :
    (Value.memberDescriptions listing fields).length = fields.length := by
  induction fields with
  | nil => rfl
  | cons field fields ih => rw [Value.memberDescriptions, List.length_cons, List.length_cons, ih]

theorem arrange_memberDescriptions (listing : Listing) {fields : List (String × Value)}
    (short : fields.length ≤ 1) :
    listing.arrange (Value.memberDescriptions listing fields) =
      Value.memberDescriptions listing fields :=
  listing.arrange_short (by rwa [memberDescriptions_length])

theorem Value.description_array (listing : Listing) (items : List Value) :
    (Value.array items).description listing =
      "Array([" ++ ", ".intercalate (itemDescriptions listing items) ++ "])" := rfl

theorem Value.description_object (listing : Listing) {fields : List (String × Value)}
    (short : fields.length ≤ 1) :
    (Value.object fields).description listing =
      "Object(\x7b" ++ ", ".intercalate (memberDescriptions listing fields) ++ "\x7d)" := by
  rw [← arrange_memberDescriptions listing short]
  rfl

theorem Value.description_record (listing : Listing) (schema : Record)
    {fields : List (String × Value)} (short : fields.length ≤ 1) :
    (Value.record schema fields).description listing =
      "Content(ComplexContent \x7b schema: " ++ schema.description ++ ", fields: \x7b" ++
        ", ".intercalate (memberDescriptions listing fields) ++ "\x7d \x7d)" := by
  rw [← arrange_memberDescriptions listing short]
  rfl

mutual

theorem Value.description_eq_of_hasOneText : (value : Value) → value.hasOneText = true →
    value.description listing = value.description other
  | .array items, one => by
      rw [Value.hasOneText] at one
      rw [Value.description_array, Value.description_array, itemDescriptions_eq items one]
  | .object fields, one => by
      rw [Value.hasOneText, Bool.and_eq_true, decide_eq_true_eq] at one
      rw [Value.description_object _ one.1, Value.description_object _ one.1,
        memberDescriptions_eq fields one.2]
  | .record schema fields, one => by
      rw [Value.hasOneText, Bool.and_eq_true, decide_eq_true_eq] at one
      rw [Value.description_record _ _ one.1, Value.description_record _ _ one.1,
        memberDescriptions_eq fields one.2]
  | .null, _ | .boolean _, _ | .float _, _ | .integer _, _ | .string _, _ => rfl

theorem itemDescriptions_eq : (items : List Value) → itemsHaveOneText items = true →
    Value.itemDescriptions listing items = Value.itemDescriptions other items
  | [], _ => rfl
  | item :: items, one => by
      rw [itemsHaveOneText, Bool.and_eq_true] at one
      rw [Value.itemDescriptions, Value.itemDescriptions,
        item.description_eq_of_hasOneText one.1, itemDescriptions_eq items one.2]

theorem memberDescriptions_eq : (fields : List (String × Value)) →
    fieldsHaveOneText fields = true →
      Value.memberDescriptions listing fields = Value.memberDescriptions other fields
  | [], _ => rfl
  | (name, value) :: fields, one => by
      rw [fieldsHaveOneText, Bool.and_eq_true] at one
      rw [Value.memberDescriptions, Value.memberDescriptions,
        value.description_eq_of_hasOneText one.1, memberDescriptions_eq fields one.2]

end

theorem Value.text_eq_of_hasOneText {value : Value} (one : value.hasOneText = true) :
    value.text listing = value.text other := by
  have same : value.description listing = value.description other :=
    value.description_eq_of_hasOneText one
  cases value with
  | array | object | record => exact same
  | null | boolean | float | integer | string => rfl

theorem sum_listing {left right : Value}
    (text : ∀ s, left = .string s → right.text listing = right.text other) :
    arithmetic listing .add left right = arithmetic other .add left right := by
  cases left with
  | string s => rw [arithmetic, arithmetic, text s rfl]
  | _ => rfl

theorem Value.isLike_listing {value pattern : Value}
    (text : ∀ source, pattern = .string source → (Pattern.whole? source).isSome = true →
      value.text listing = value.text other) :
    value.isLike listing pattern = value.isLike other pattern := by
  unfold Value.isLike
  split
  · split
    · rename_i compiled
      have same := text _ rfl (by rw [compiled]; rfl)
      cases value with
      | null => rfl
      | _ => simp only [same]
    · rfl
  · rfl

theorem Operator.operate_listing {op : Operator} {left right : Value}
    (texts : ∀ value ∈ op.writtenOut left right, value.text listing = value.text other) :
    op.operate listing left right = op.operate other left right := by
  cases op with
  | add =>
      apply sum_listing
      rintro s rfl
      exact texts right List.mem_cons_self
  | increase | decrease => exact sum_listing fun _ _ => rfl
  | like | unlike =>
      have same : left.isLike listing right = left.isLike other right := by
        apply Value.isLike_listing
        rintro source rfl readable
        exact texts left (by simp [Operator.writtenOut, readable])
      simp only [Operator.operate, same]
  | _ => rfl

end Texts

end TypedPath
