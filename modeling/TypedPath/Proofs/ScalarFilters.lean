import TypedPath.Proofs.CheckedPlaces
import TypedPath.Proofs.PathValues
import TypedPath.Proofs.RelativeReads

/-! Filters over collections of simple values, behind a way of single records. Typing takes the
relative paths of such a filter from the record that holds the collection. Reading takes them from
the content where the whole path starts, so that the two meet only when both contents have the same
under the names that the filter reads. -/

namespace TypedPath

/-- The record that a way of fields leads to, each of them declared with a single record. -/
def recordAt (schema : Record) : List String → Option Record
  | [] => some schema
  | name :: names =>
    match Referent.ofRecord schema name with
    | .found ⟨_, .record inner, false, _⟩ => recordAt inner names
    | _ => none

def Record.itemClass? (schema : Record) (name : String) : Option ValueClass :=
  match Referent.ofRecord schema name with
  | .found ⟨_, .scalar cls, true, _⟩ => some cls
  | _ => none

def contentAt (content : Content) : List String → Option Content
  | [] => some content
  | name :: names =>
    match (content.get? name).bind Value.content? with
    | some inner => contentAt inner names
    | none => none

def filterBehind (names : List String) (last : String) (filter : Expr) : List Part :=
  names.map .segment ++ [.segment last, .expr filter]

def Expr.holdsAt (env : Env) (frame : Frame) (expr : Expr) : Bool :=
  (expr.eval env frame).toOption.any Value.isTrue

def ValueClass.isPlain (cls : ValueClass) : Bool :=
  cls.isBoolean || cls.isString || cls.isNumber

theorem recordAt_cons {schema record : Record} {name : String} {names : List String}
    (reached : recordAt schema (name :: names) = some record) :
    ∃ field inner, Referent.ofRecord schema name = .found field ∧ field.ty = .record inner ∧
      field.isList = false ∧ recordAt inner names = some record := by
  rw [recordAt] at reached
  split at reached
  · rename_i title inner strategy found
    exact ⟨_, inner, found, rfl, rfl, reached⟩
  · cases reached

theorem Record.itemClass_eq_some {schema : Record} {name : String} {cls : ValueClass}
    (declared : schema.itemClass? name = some cls) :
    ∃ field, Referent.ofRecord schema name = .found field ∧ field.ty = .scalar cls ∧
      field.isList = true := by
  rw [Record.itemClass?] at declared
  split at declared
  · rename_i title cls strategy found
    cases declared
    exact ⟨_, found, rfl, rfl⟩
  · cases declared

theorem contentAt_cons {content holder : Content} {name : String} {names : List String}
    (reached : contentAt content (name :: names) = some holder) :
    ∃ value inner, content.get? name = some value ∧ value.content? = some inner ∧
      contentAt inner names = some holder := by
  rw [contentAt] at reached
  split at reached
  · rename_i inner found
    obtain ⟨value, set, structured⟩ := Option.bind_eq_some_iff.mp found
    exact ⟨value, inner, set, structured, reached⟩
  · cases reached

theorem Value.toValue_of_content {value : Value} {content : Content}
    (structured : value.content? = some content) : content.toValue = value := by
  cases value with
  | object | record =>
      cases structured
      rfl
  | null | boolean | float | integer | string | array => cases structured

theorem Content.select_plain {content : Content} {name : String} {value : Value}
    (plain : PlainName name) (set : content.get? name = some value) :
    content.toValue.select name = value := by
  rw [content.select_toValue, Content.read_plain plain, set]
  rfl

theorem isInstanceOf_at {names : List String} {schema record : Record} {content holder : Content}
    (plain : ∀ name ∈ names, PlainName name) (fits : content.isInstanceOf schema = true)
    (typed : recordAt schema names = some record)
    (reached : contentAt content names = some holder) : holder.isInstanceOf record = true := by
  induction names generalizing schema content with
  | nil =>
      cases typed
      cases reached
      exact fits
  | cons name names ih =>
      obtain ⟨field, inner, referent, shape, single, typed⟩ := recordAt_cons typed
      obtain ⟨value, within, set, structured, reached⟩ := contentAt_cons reached
      obtain ⟨plainFirst, plainLater⟩ := List.forall_mem_cons.mp plain
      have holds := select_holds plainFirst referent fits
      rw [Content.select_plain plainFirst set] at holds
      have conforms : value.conforms (.record inner) = true := by
        cases value with
        | object | record => simpa [Field.holds, single, shape, Value.kind] using holds
        | null | boolean | float | integer | string | array => cases structured
      apply ih plainLater _ typed reached
      rw [Content.isInstanceOf, Value.toValue_of_content structured]
      exact conforms

theorem evalSteps_at {env : Env} {frame : Frame} {names : List String} {steps : List Part}
    {content holder : Content} (plain : ∀ name ∈ names, PlainName name)
    (reached : contentAt content names = some holder) :
    evalSteps env frame content.toValue (names.map .segment ++ steps) =
      evalSteps env frame holder.toValue steps := by
  induction names generalizing content with
  | nil =>
      cases reached
      rfl
  | cons name names ih =>
      obtain ⟨value, inner, set, structured, reached⟩ := contentAt_cons reached
      obtain ⟨plainFirst, plainLater⟩ := List.forall_mem_cons.mp plain
      rw [List.map_cons, List.cons_append, evalSteps, Content.select_plain plainFirst set,
        ← Value.toValue_of_content structured]
      exact ih plainLater reached

theorem Scope.root_enter {scope : Scope} (entered : scope.trail ≠ []) (ty : Ty) :
    (scope.enter ty).root = scope.root := by
  unfold Scope.root Scope.enter
  rw [List.getLast?_cons_of_ne_nil entered]

theorem filterBehind_segment (names : List String) (last : String) (filter : Expr) :
    ∃ next rest, filterBehind names last filter = .segment next :: rest := by
  cases names with
  | nil => exact ⟨last, _, rfl⟩
  | cons name names => exact ⟨name, _, rfl⟩

theorem meetsBracket_at {names : List String} {last : String} {filter : Expr}
    {schema record : Record} {cls : ValueClass} {first : Bool} {scope : Scope}
    (plain : ∀ name ∈ names, PlainName name) (plainLast : PlainName last)
    (typed : recordAt schema names = some record)
    (declared : record.itemClass? last = some cls) (rooted : scope.trail ≠ []) :
    ∃ inner : Scope,
      MeetsBracket first (some schema) scope (filterBehind names last filter)
        ⟨filter, some record, inner⟩ ∧
      inner.root = scope.root ∧ inner.current = some (.scalar cls) := by
  induction names generalizing schema first scope with
  | nil =>
      cases typed
      obtain ⟨field, referent, shape, _⟩ := Record.itemClass_eq_some declared
      have found : Referent.ofSegment last first (some record) scope = .found field := by
        rw [Referent.ofSegment_plain plainLast, referent]
      have here : MeetsBracket first (some record) scope [.segment last, .expr filter] _ :=
        .here found
      rw [shape] at here
      exact ⟨_, here, Scope.root_enter rooted _, rfl⟩
  | cons name names ih =>
      obtain ⟨field, inner, referent, shape, _, typed⟩ := recordAt_cons typed
      obtain ⟨plainFirst, plainLater⟩ := List.forall_mem_cons.mp plain
      have found : Referent.ofSegment name first (some schema) scope = .found field := by
        rw [Referent.ofSegment_plain plainFirst, referent]
      have deeper : (scope.enter field.ty).trail ≠ [] := List.cons_ne_nil _ _
      obtain ⟨reached, later, root, current⟩ := ih plainLater typed deeper
      refine ⟨reached, ?_, root.trans (Scope.root_enter rooted _), current⟩
      obtain ⟨next, rest, same⟩ := filterBehind_segment names last filter
      rw [same] at later
      have path : filterBehind (name :: names) last filter =
          .segment name :: .segment next :: rest := congrArg (List.cons (Part.segment name)) same
      rw [path]
      exact .plain (by simp) found shape later

theorem ValueClass.simple_of_admits {cls : ValueClass} {value : Value}
    (plain : cls.isPlain = true) (admits : cls.admits value = true) : value.content? = none := by
  cases value with
  | object | record =>
      cases cls with
      | boolean | string | integer | long | float | double | decimal | number => cases admits
      | date | object | content | list | array => cases plain
  | null | boolean | float | integer | string | array => rfl

theorem simple_of_holds {field : Field} {cls : ValueClass} {value : Value}
    (shape : field.ty = .scalar cls) (list : field.isList = true) (plain : cls.isPlain = true)
    (holds : field.holds value = true) : ∀ item ∈ value.filterItems, item.content? = none := by
  intro item member
  rw [Field.holds, list, if_pos rfl, shape] at holds
  cases value with
  | null => cases member
  | array items =>
      have all : allConform items (.scalar cls) = true := by
        simpa [Value.itemsConform, Value.kind] using holds
      have conforms := (allConform_iff items _).mp all item member
      rw [Value.conforms] at conforms
      exact ValueClass.simple_of_admits plain conforms
  | boolean | float | integer | string | object | record =>
      simp [Value.itemsConform, Value.kind] at holds

theorem Frame.forItem_simple {item : Value} (simple : item.content? = none) (frame : Frame) :
    frame.forItem item = ⟨frame.root, frame.current, some item⟩ := by
  rw [Frame.forItem, simple]

theorem evaluate_filterBehind {env : Env} {content holder : Content} {names : List String}
    {last : String} {filter : Expr} {value result : Value}
    (plain : ∀ name ∈ names, PlainName name) (plainLast : PlainName last)
    (condition : filter.isCondition = true) (reached : contentAt content names = some holder)
    (set : holder.get? last = some value)
    (simple : ∀ item ∈ value.filterItems, item.content? = none)
    (evaluated : (Expr.path (filterBehind names last filter)).evaluate env content = .ok result) :
    result = .array
      (value.filterItems.filter fun item => filter.holdsAt env ⟨content, content, some item⟩) := by
  have segments : PlainSegments (filterBehind names last filter) := by
    intro name member
    simp only [filterBehind, List.mem_append, List.mem_map, Part.segment.injEq, exists_eq_right,
      List.mem_cons, List.not_mem_nil, reduceCtorEq, or_false] at member
    rcases member with way | rfl
    · exact plain name way
    · exact plainLast
  have steps := evaluate_path_plain segments evaluated
  rw [filterBehind, evalSteps_at plain reached, evalSteps, Content.select_plain plainLast set,
    evalSteps_filter condition] at steps
  obtain ⟨kept, filtered, done⟩ := except_bind_eq_ok.mp steps
  cases done
  rw [(keepItems_eq_ok.mp filtered).2]
  congr 1
  apply List.filter_congr
  intro item member
  rw [passes, Frame.forItem_simple (simple item member)]
  rfl

/-- A filter over a collection of simple values, behind a way of single records, is typed against
the record that holds the collection. It keeps the items for which it is true with relative paths
read where the whole path starts. Where the two contents agree on the names that the filter reads,
these are the items for which it is true with relative paths read from the content that holds the
collection. -/
theorem scalar_filter_keeps_items_true_at_start (env : Env) (schema record : Record)
    (content holder : Content) (names : List String) (last : String) (filter : Expr)
    (cls : ValueClass) (value result : Value) (plain : ∀ name ∈ names, PlainName name)
    (plainLast : PlainName last) (condition : filter.isCondition = true)
    (typed : recordAt schema names = some record) (declared : record.itemClass? last = some cls)
    (simple : cls.isPlain = true)
    (valid : (Expr.path (filterBehind names last filter)).validate env (some schema) = .ok [])
    (fits : content.isInstanceOf schema = true) (reached : contentAt content names = some holder)
    (set : holder.get? last = some value)
    (evaluated : (Expr.path (filterBehind names last filter)).evaluate env content = .ok result) :
    (∃ scope : Scope,
      Place.Opens ⟨.path (filterBehind names last filter), some schema, .start (some schema)⟩
        ⟨filter, some record, scope⟩ ∧
      Place.Clean env ⟨filter, some record, scope⟩ ∧
      scope.root = some schema ∧ scope.current = some (.scalar cls)) ∧
    holder.isInstanceOf record = true ∧
    result = .array
      (value.filterItems.filter fun item => filter.holdsAt env ⟨content, content, some item⟩) ∧
    ((∀ name ∈ filter.relativeNames, content.read name = holder.read name) →
      result = .array
        (value.filterItems.filter fun item =>
          filter.holdsAt env ⟨content, holder, some item⟩)) := by
  have start := Place.clean_of_valid valid
  have rooted : (⟨[.record schema], 1⟩ : Scope).trail ≠ [] := List.cons_ne_nil _ _
  obtain ⟨scope, meets, root, current⟩ := meetsBracket_at plain plainLast typed declared rooted
  have opens : Place.Opens
      ⟨.path (filterBehind names last filter), some schema, .start (some schema)⟩
      ⟨filter, some record, scope⟩ := .bracket meets
  have holderFits := isInstanceOf_at plain fits typed reached
  obtain ⟨field, referent, shape, list⟩ := Record.itemClass_eq_some declared
  have holds := select_holds plainLast referent holderFits
  rw [Content.select_plain plainLast set] at holds
  have kept := evaluate_filterBehind plain plainLast condition reached set
    (simple_of_holds shape list simple holds) evaluated
  refine ⟨⟨scope, opens, start.opens opens, root, current⟩, holderFits, kept, ?_⟩
  intro agree
  rw [kept]
  congr 1
  apply List.filter_congr
  intro item _
  have same : filter.eval env ⟨content, content, some item⟩ =
      filter.eval env ⟨content, holder, some item⟩ := filter.eval_congr ⟨rfl, rfl, agree⟩
  rw [Expr.holdsAt, Expr.holdsAt, same]

def overLimit : Expr :=
  .operator [.expr (.path [.segment selfReference]), .operator .greater,
    .expr (.path [.segment "limit"])]

/-- The sizes over a limit: `crate/sizes[$this > limit]`. -/
def sizesOverLimit : Expr := .path (filterBehind ["crate"] "sizes" overLimit)

def crateSchema : Record :=
  ⟨"Crate", [⟨"limit", .scalar .long, false, none⟩, ⟨"sizes", .scalar .long, true, none⟩], false⟩

def shipSchema : Record :=
  ⟨"Ship", [⟨"limit", .scalar .long, false, none⟩, ⟨"crate", .record crateSchema, false, none⟩],
    false⟩

def crate : List (String × Value) :=
  [("limit", .integer 5), ("sizes", .array [.integer 1, .integer 6, .integer 9])]

def ship (limit : Int64) : Content :=
  .map [("limit", .integer limit), ("crate", .object crate)]

theorem sizesOverLimit_valid :
    sizesOverLimit.validate .standard (some shipSchema) = .ok [] := by
  decide +kernel

theorem scalar_filter_keeps_items_true_at_start_ship :
    sizesOverLimit.validate .standard (some shipSchema) = .ok [] ∧
      (ship 5).isInstanceOf shipSchema = true ∧
      sizesOverLimit.evaluate .standard (ship 5) = .ok (.array [.integer 6, .integer 9]) ∧
      (∃ scope : Scope,
        Place.Opens ⟨sizesOverLimit, some shipSchema, .start (some shipSchema)⟩
          ⟨overLimit, some crateSchema, scope⟩ ∧
        Place.Clean .standard ⟨overLimit, some crateSchema, scope⟩ ∧
        scope.root = some shipSchema ∧ scope.current = some (.scalar .long)) ∧
      Value.array [.integer 6, .integer 9] = .array
        ([.integer 1, .integer 6, .integer 9].filter fun item =>
          overLimit.holdsAt .standard ⟨ship 5, .map crate, some item⟩) := by
  have fits : (ship 5).isInstanceOf shipSchema = true := by decide
  have evaluated : sizesOverLimit.evaluate .standard (ship 5) =
      .ok (.array [.integer 6, .integer 9]) := rfl
  have main := scalar_filter_keeps_items_true_at_start .standard shipSchema crateSchema (ship 5)
    (.map crate) ["crate"] "sizes" overLimit .long
    (.array [.integer 1, .integer 6, .integer 9]) _ (by decide) (by decide) rfl rfl rfl rfl
    sizesOverLimit_valid fits rfl rfl evaluated
  have agree : ∀ name ∈ overLimit.relativeNames,
      (ship 5).read name = (Content.map crate).read name := by
    intro name member
    rw [List.mem_singleton.mp member]
    rfl
  exact ⟨sizesOverLimit_valid, fits, evaluated, main.1, main.2.2.2 agree⟩

/-- Where the ship has another limit than the crate, the filter keeps what is over the limit of the
ship. -/
theorem scalar_filter_keeps_items_false_at_holder :
    sizesOverLimit.validate .standard (some shipSchema) = .ok [] ∧
      recordAt shipSchema ["crate"] = some crateSchema ∧
      crateSchema.itemClass? "sizes" = some .long ∧
      (ship 0).isInstanceOf shipSchema = true ∧
      contentAt (ship 0) ["crate"] = some (.map crate) ∧
      sizesOverLimit.evaluate .standard (ship 0) =
        .ok (.array [.integer 1, .integer 6, .integer 9]) ∧
      ([.integer 1, .integer 6, .integer 9].filter fun item =>
        overLimit.holdsAt .standard ⟨ship 0, .map crate, some item⟩) = [.integer 6, .integer 9] :=
  ⟨sizesOverLimit_valid, rfl, rfl, by decide, rfl, rfl, rfl⟩

end TypedPath
