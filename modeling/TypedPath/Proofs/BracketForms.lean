import TypedPath.Proofs.CheckedPlaces

/-! What makes a bracket a filter. Typing asks for the type of a bracket; reading a path and storing
it ask for the form. What filters by its form always filters by its type. The other way round this
fails for paths, calls and numbers of a boolean type: such a bracket is counted as a filter, and is
read as an index. -/

namespace TypedPath

def Expr.isIndexForm : Expr → Bool
  | .path _ | .call _ => true
  | .literal [.literal (.integer _)] | .literal [.literal (.decimal _)] => true
  | _ => false

theorem selects_eq_isCondition_iff {env : Env} {context : Option Record} {bracket : Expr}
    {scope after : Scope} {typing : Typing}
    (typed : bracket.infer env context scope = .ok typing after) :
    bracket.selects typing = bracket.isCondition ↔
      ¬ (bracket.isIndexForm = true ∧ typing.ty.isBoolean = true) := by
  cases bracket with
  | operator parts => simp [Expr.selects, Expr.isIndexForm]
  | path parts => simp [Expr.selects, Expr.isCondition, Expr.isIndexForm]
  | call parts => simp [Expr.selects, Expr.isCondition, Expr.isIndexForm]
  | literal parts =>
      obtain ⟨value, rfl, rfl⟩ := Expr.literal_of_typed typed
      cases value with
      | boolean b =>
          simp [Expr.selects, Expr.isCondition, Expr.isIndexForm, Typing.single, Env.literalType,
            Config.classOf, Ty.isBoolean]
      | string s =>
          simp [Expr.selects, Expr.isCondition, Expr.isIndexForm, Typing.single, Env.literalType,
            Config.classOf, Ty.isBoolean]
      | integer n => simp [Expr.selects, Expr.isCondition, Expr.isIndexForm]
      | decimal x => simp [Expr.selects, Expr.isCondition, Expr.isIndexForm]

theorem Expr.index_of_isIndexForm {bracket : Expr} (form : bracket.isIndexForm = true) :
    bracket.isCondition = false := by
  unfold Expr.isIndexForm at form
  split at form
  · rfl
  · rfl
  · rfl
  · rfl
  · cases form

theorem selects_of_isCondition {env : Env} {context : Option Record} {bracket : Expr}
    {scope after : Scope} {typing : Typing} (condition : bracket.isCondition = true)
    (typed : bracket.infer env context scope = .ok typing after) :
    bracket.selects typing = true := by
  have agree : bracket.selects typing = bracket.isCondition := by
    rw [selects_eq_isCondition_iff typed]
    rintro ⟨form, _⟩
    rw [Expr.index_of_isIndexForm form] at condition
    cases condition
  rw [agree, condition]

/-- The second place is that of a bracket of the path at the first, or of a path inside of it. -/
def Place.HasBracket (start place : Place) : Prop :=
  ∃ parts context scope, Relation.ReflTransGen Place.Opens start ⟨.path parts, context, scope⟩ ∧
    Place.Opens ⟨.path parts, context, scope⟩ place

/-- Every bracket in a well typed path, however deep, has a type. What is a condition by its form is
counted as a filter by its type, and the two differ for the paths, calls and numbers among the
brackets that are of boolean type, and for no others. -/
theorem bracket_filters_by_type_and_form (env : Env) (schema : Option Record) (parts : List Part)
    (place : Place) (valid : (Expr.path parts).validate env schema = .ok [])
    (within : Place.HasBracket ⟨.path parts, schema, .start schema⟩ place) :
    ∃ typing, place.expr.infer env place.context place.scope = .ok typing place.scope ∧
      (place.expr.isCondition = true → place.expr.selects typing = true) ∧
      (place.expr.selects typing = place.expr.isCondition ↔
        ¬ (place.expr.isIndexForm = true ∧ typing.ty.isBoolean = true)) := by
  obtain ⟨inner, context, scope, path, bracket⟩ := within
  have start := Place.clean_of_valid valid
  obtain ⟨typing, typed⟩ := ((start.inside path).opens bracket).typing
  exact ⟨typing, typed, fun condition => selects_of_isCondition condition typed,
    selects_eq_isCondition_iff typed⟩

def firstChapterPath : List Part :=
  [.segment "chapters", .expr (.literal [.literal (.integer 0)])]

/-- The books with a long first chapter: `books[chapters[0] > 3]`. -/
def longStarts : List Part :=
  [.segment "books", .expr (.operator [
    .expr (.path firstChapterPath), .operator .greater, .literal (.integer 3)])]

def chaptersField : Field := ⟨"chapters", .scalar .long, true, none⟩

def bookSchema : Record := ⟨"Book", [chaptersField], false⟩

def booksField : Field := ⟨"books", .record bookSchema, true, none⟩

def shelfSchema : Record := ⟨"Shelf", [booksField], false⟩

def firstChapter : Place :=
  ⟨.literal [.literal (.integer 0)], some bookSchema,
    ⟨[.scalar .long, .record bookSchema, .record shelfSchema], 3⟩⟩

theorem firstChapter_within :
    Place.HasBracket ⟨.path longStarts, some shelfSchema, .start (some shelfSchema)⟩
      firstChapter := by
  have books : Referent.ofSegment "books" true (some shelfSchema) ⟨[.record shelfSchema], 1⟩ =
      .found booksField := rfl
  have chapters : Referent.ofSegment "chapters" true (some bookSchema)
      ⟨[.record bookSchema, .record shelfSchema], 3⟩ = .found chaptersField := rfl
  refine ⟨firstChapterPath, _, ⟨[.record bookSchema, .record shelfSchema], 2⟩, ?_,
    .bracket (.here chapters)⟩
  apply Relation.ReflTransGen.tail
  · exact .single (.bracket (.here books))
  · exact .operand List.mem_cons_self

theorem bracket_filters_by_type_and_form_firstChapter :
    (Expr.path longStarts).validate .standard (some shelfSchema) = .ok [] ∧
      Place.HasBracket ⟨.path longStarts, some shelfSchema, .start (some shelfSchema)⟩
        firstChapter ∧
      ∃ typing, firstChapter.expr.infer .standard firstChapter.context firstChapter.scope =
          .ok typing firstChapter.scope ∧
        (firstChapter.expr.isCondition = true → firstChapter.expr.selects typing = true) ∧
        (firstChapter.expr.selects typing = firstChapter.expr.isCondition ↔
          ¬ (firstChapter.expr.isIndexForm = true ∧ typing.ty.isBoolean = true)) :=
  ⟨rfl, firstChapter_within,
    bracket_filters_by_type_and_form .standard (some shelfSchema) longStarts firstChapter rfl
      firstChapter_within⟩

/-- The tags of a record that may be marked: `tags[marked]`. -/
def markedTags : List Part := [.segment "tags", .expr (.path [.segment "marked"])]

def tagsField : Field := ⟨"tags", .scalar .string, true, none⟩

def taggedSchema : Record :=
  ⟨"Tagged", [tagsField, ⟨"marked", .scalar .boolean, false, none⟩], false⟩

/-- A boolean field in a bracket makes the path one of many values, as a filter does, and is read as
an index, which no boolean is. -/
theorem boolean_path_counted_not_read_as_filter :
    (Expr.path markedTags).validate .standard (some taggedSchema) = .ok [] ∧
      Place.HasBracket ⟨.path markedTags, some taggedSchema, .start (some taggedSchema)⟩
        ⟨.path [.segment "marked"], some taggedSchema,
          ⟨[.scalar .string, .record taggedSchema], 1⟩⟩ ∧
      (Expr.path [.segment "marked"]).infer .standard (some taggedSchema)
          ⟨[.scalar .string, .record taggedSchema], 1⟩ =
        .ok (.single (.scalar .boolean)) ⟨[.scalar .string, .record taggedSchema], 1⟩ ∧
      (Expr.path [.segment "marked"]).selects (.single (.scalar .boolean)) = true ∧
      (Expr.path [.segment "marked"]).isCondition = false ∧
      (Expr.path markedTags).typing .standard (some taggedSchema) =
        .ok ⟨.scalar .string, some .list⟩ ∧
      (Expr.path markedTags).evaluate .standard
          (.map [("tags", .array [.string "a", .string "b"]), ("marked", .boolean true)]) =
        .error (.access (.notAnIndex .boolean)) := by
  have tags : Referent.ofSegment "tags" true (some taggedSchema) ⟨[.record taggedSchema], 1⟩ =
      .found tagsField := rfl
  exact ⟨rfl, ⟨_, _, _, .refl, .bracket (.here tags)⟩, rfl, rfl, rfl, rfl, rfl⟩

end TypedPath
