import TypedPath.Proofs.Conformance
import TypedPath.Proofs.DocumentValues
import TypedPath.Proofs.RelativeReads
import TypedPath.Proofs.StoredIndexes

/-! Of a content only the values under its names are seen when an expression is evaluated or a path
is stored, and the order in which texts list their fields. Where no text shows that order a map
whose values fit into a document can be read from that document as well. -/

namespace TypedPath

def Content.ReadsLike (content other : Content) : Prop :=
  ∀ name, content.get? name = other.get? name

theorem Content.readsLike_refl (content : Content) : content.ReadsLike content := fun _ => rfl

theorem Content.ReadsLike.read {content other : Content} (alike : content.ReadsLike other)
    (name : String) : content.read name = other.read name := by
  have values : content.get? = other.get? := funext alike
  rw [Content.read, Content.read, values]

structure Frame.ReadsLike (frame other : Frame) : Prop where
  root : frame.root.ReadsLike other.root
  current : frame.current.ReadsLike other.current
  self : frame.self = other.self

theorem Frame.ReadsLike.forItem {frame other : Frame} (alike : frame.ReadsLike other)
    (item : Value) : (frame.forItem item).ReadsLike (other.forItem item) := by
  unfold Frame.forItem
  cases item.content? with
  | some content => exact ⟨alike.root, content.readsLike_refl, rfl⟩
  | none => exact ⟨alike.root, alike.current, rfl⟩

theorem Frame.ReadsLike.read {frame other : Frame} (alike : frame.ReadsLike other)
    (name : String) : frame.read name = other.read name := by
  unfold Frame.read
  rw [alike.self, alike.current.read]
  cases unmark? rootMark name with
  | some bare => exact alike.root.read bare
  | none => rfl

theorem Expr.eval_readsLike {env : Env} (expr : Expr) {frame other : Frame}
    (alike : frame.ReadsLike other) : expr.EvaluatesLike env frame other := by
  have keeps : Frame.KeepsReads expr.relativeNames Frame.ReadsLike :=
    ⟨fun _ _ item alike => alike.forItem item, fun _ _ name alike _ => alike.read name⟩
  exact expr.eval_related keeps (List.Subset.refl _) alike

section Storage

variable {env : Env} {whole : List Part} {root otherRoot content other : Content}

theorem storageIndex_readsLike (roots : root.ReadsLike otherRoot)
    (contents : content.ReadsLike other) {bracket : Expr}
    (texts : env.WritesLike root otherRoot (bracket.writtenAsIndex env root content)) :
    storageIndex env root content bracket = storageIndex env otherRoot other bracket := by
  cases form : bracket.isCondition with
  | true => rw [storageIndex, storageIndex, if_pos form, if_pos form]
  | false =>
      rw [Expr.writtenAsIndex, form, if_neg Bool.false_ne_true, Env.writesLike_append] at texts
      have same : bracket.eval env ⟨root, content, none⟩ =
          bracket.eval env ⟨otherRoot, other, none⟩ :=
        bracket.eval_readsLike ⟨roots, contents, rfl⟩ texts.1
      rw [storageIndex, storageIndex, ← same]
      cases evaluated : bracket.eval env ⟨root, content, none⟩ with
      | error failure => rfl
      | ok value =>
          rw [evaluated] at texts
          cases value with
          | array | object | record =>
              have written := texts.2 _ List.mem_cons_self
              simp only [Value.index?, written]
          | null | boolean | float | integer | string => rfl

theorem storedAt_readsLike (contents : content.ReadsLike other) (known : Bool) (name : String) :
    storedAt content known name = storedAt other known name := by
  rw [storedAt, storedAt, contents]

theorem enclosingAfter_readsLike (contents : content.ReadsLike other) (stored : Option Value) :
    (enclosingAfter content stored).1.ReadsLike (enclosingAfter other stored).1 ∧
      (enclosingAfter content stored).2 = (enclosingAfter other stored).2 := by
  unfold enclosingAfter
  cases storedContent? stored with
  | some inner => exact ⟨inner.readsLike_refl, rfl⟩
  | none => exact ⟨contents, rfl⟩

theorem storageSteps_readsLike (roots : root.ReadsLike otherRoot) (parts : List Part)
    (contents : content.ReadsLike other) (known : Bool)
    (texts : env.WritesLike root otherRoot (writtenByPlaces env root content known parts)) :
    storageSteps env whole root content known parts =
      storageSteps env whole otherRoot other known parts := by
  induction parts using steps_induction generalizing content other known with
  | nil => rfl
  | last name => rfl
  | lastBracket name bracket =>
      rw [writtenByPlaces, Env.writesLike_append] at texts
      rw [storageSteps_lastBracket, storageSteps_lastBracket,
        storageIndex_readsLike roots contents texts.1]
  | bracketed name bracket next rest ih =>
      rw [writtenByPlaces, Env.writesLike_append] at texts
      rw [storageSteps_bracketed, storageSteps_bracketed,
        ← storageIndex_readsLike roots contents texts.1, ← storedAt_readsLike contents]
      cases found : storageIndex env root content bracket with
      | error failure => rfl
      | ok index =>
          rw [found] at texts
          obtain ⟨behind, stillKnown⟩ := enclosingAfter_readsLike contents
            (storedItem? (storedAt content known name) index)
          have later := ih behind _ texts.2
          rw [stillKnown] at later
          simp only [bind, Except.bind, stillKnown, later]
  | plain name next rest step ih =>
      cases next with
      | segment after =>
          rw [writtenByPlaces] at texts
          · obtain ⟨behind, stillKnown⟩ := enclosingAfter_readsLike contents
              (storedAt content known name)
            have later := ih behind _ texts
            rw [stillKnown] at later
            rw [storageSteps_plain, storageSteps_plain, ← storedAt_readsLike contents]
            simp only [stillKnown, later]
          · simp
      | expr bracket => exact absurd rfl (step bracket)
      | literal | null | operator | method => rfl
  | other part rest step =>
      cases part with
      | segment name => exact absurd rfl (step name)
      | literal | null | operator | method | expr => rfl

theorem Expr.storagePath_readsLike (expr : Expr) (contents : content.ReadsLike other)
    (texts : env.WritesLike content other (expr.writtenInPlaces env content)) :
    expr.storagePath env content = expr.storagePath env other := by
  cases expr with
  | path parts => exact storageSteps_readsLike contents parts contents true texts
  | literal | operator | call => rfl

end Storage

theorem Content.map_readsLike_document {fields : List (String × Value)}
    (fit : Value.fieldsFitDocument fields = true) :
    (Content.map fields).ReadsLike (.document (Value.fieldsToJson fields)) := by
  intro name
  have kept : Value.fieldsOfJson (Value.fieldsToJson fields) = fields := by
    rw [Value.fieldsOfJson_fieldsToJson, Value.documentedFields_of_fit fields fit]
  calc
    (Content.map fields).get? name
      = lookupField name (Value.fieldsOfJson (Value.fieldsToJson fields)) := by rw [kept]; rfl
    _ = (Content.document (Value.fieldsToJson fields)).get? name :=
      lookupField_fieldsOfJson name _

/-- A map without records and with finite floats only, at every depth, and the document of its
values are interchangeable as long as no text shows the order of fields, which each has its own.
Every expression has the same value or the same failure on both if it writes out no value with two
fields in an object or a record, and so has every storage path. -/
theorem map_and_document_interchangeable (env : Env) (fields : List (String × Value))
    (fit : Value.fieldsFitDocument fields = true) (expr : Expr) :
    ((∀ value ∈ expr.writtenOut env (.start (.map fields)), value.hasOneText = true) →
        expr.evaluate env (.map fields) =
          expr.evaluate env (.document (Value.fieldsToJson fields))) ∧
      ((∀ value ∈ expr.writtenInPlaces env (.map fields), value.hasOneText = true) →
        expr.storagePath env (.map fields) =
          expr.storagePath env (.document (Value.fieldsToJson fields))) := by
  have alike := Content.map_readsLike_document fit
  constructor
  · intro one
    exact expr.eval_readsLike ⟨alike, alike, rfl⟩ (Env.writesLike_of_hasOneText one)
  · intro one
    exact expr.storagePath_readsLike alike (Env.writesLike_of_hasOneText one)

/-- An environment in which documents list the fields of their objects the other way around. -/
def mirrored : Env :=
  { Env.standard with
    listing := fun content =>
      match content with
      | .document _ => ⟨List.reverse, List.reverse_perm⟩
      | _ => .asGiven }

def cellar : List (String × Value) :=
  [("tapped", .float 1),
    ("casks", .array [.object [("label", .string "white")],
      .object [("size", .float 2.25), ("label", .string "red")]])]

/-- The label of the tapped cask: `casks[tapped]/label`. -/
def tappedLabel : Expr :=
  .path [.segment "casks", .expr (.path [.segment "tapped"]), .segment "label"]

/-- What is said of the first cask: `'from ' + casks[0]`. -/
def fromFirst : Expr :=
  .operator [.literal (.string "from "), .operator .add,
    .expr (.path [.segment "casks", .expr (.literal [.literal (.integer 0)])])]

theorem map_and_document_interchangeable_cellar :
    Value.fieldsFitDocument cellar = true ∧
      fromFirst.writtenOut mirrored (.start (.map cellar)) =
        [.object [("label", .string "white")]] ∧
      fromFirst.evaluate mirrored (.document (Value.fieldsToJson cellar)) =
        .ok (.string ("from " ++ (Value.object [("label", .string "white")]).text .asGiven)) ∧
      tappedLabel.storagePath mirrored (.document (Value.fieldsToJson cellar)) =
        .ok "casks[1]/label" := by
  have fit : Value.fieldsFitDocument cellar = true := rfl
  have written : fromFirst.writtenOut mirrored (.start (.map cellar)) =
      [.object [("label", .string "white")]] := rfl
  have values := (map_and_document_interchangeable mirrored cellar fit fromFirst).1
    (by rw [written]; decide)
  have places := (map_and_document_interchangeable mirrored cellar fit tappedLabel).2
    (by decide)
  have onMap : fromFirst.evaluate mirrored (.map cellar) =
      .ok (.string ("from " ++ (Value.object [("label", .string "white")]).text .asGiven)) := rfl
  have storedInMap : tappedLabel.storagePath mirrored (.map cellar) = .ok "casks[1]/label" := rfl
  exact ⟨fit, written, values.symm.trans onMap, places.symm.trans storedInMap⟩

def box : List (String × Value) := [("box", .object [("a", .null), ("b", .null)])]

def aboutBox : Expr :=
  .operator [.literal (.string "a box: "), .operator .add, .expr (.path [.segment "box"])]

/-- The text of an object with two fields tells a map from its document. -/
theorem text_tells_map_from_document :
    Value.fieldsFitDocument box = true ∧
      aboutBox.evaluate mirrored (.map box) ≠
        aboutBox.evaluate mirrored (.document (Value.fieldsToJson box)) := by
  have onMap : aboutBox.evaluate mirrored (.map box) =
      .ok (.string ("a box: " ++ ("Object(\x7b" ++ ", ".intercalate
        [Text.quoted "a" ++ ": " ++ "Null", Text.quoted "b" ++ ": " ++ "Null"] ++ "\x7d)"))) := rfl
  have onDocument : aboutBox.evaluate mirrored (.document (Value.fieldsToJson box)) =
      .ok (.string ("a box: " ++ ("Object(\x7b" ++ ", ".intercalate
        [Text.quoted "b" ++ ": " ++ "Null", Text.quoted "a" ++ ": " ++ "Null"] ++ "\x7d)"))) := rfl
  have first : Text.quoted "a" =
      "\"" ++ (if Text.hidden.contains 'a' then Text.hexEscape 'a' else "a") ++ "\"" := rfl
  have second : Text.quoted "b" =
      "\"" ++ (if Text.hidden.contains 'b' then Text.hexEscape 'b' else "b") ++ "\"" := rfl
  refine ⟨rfl, ?_⟩
  rw [onMap, onDocument, first, second]
  intro same
  injection same with same
  injection same with same
  revert same
  -- Whether a letter shows on its own is looked up in a large table; the texts differ either way.
  cases Text.hidden.contains 'a' <;> cases Text.hidden.contains 'b' <;> decide

end TypedPath
