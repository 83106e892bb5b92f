import TypedPath.Value.Basic

/-! What a document keeps of a value: all but the types of records and the floats that are no finite
numbers. A value comes back from its document as it was just when it has none of these, and a
document from its value just when its numbers are integers of 64 bits and finite floats. -/

namespace TypedPath

attribute [local instance (high)] instPowNat

theorem Number.int64_toInt (n : Int64) : int64? n.toInt = some n := by
  have low : -2 ^ (63 : Nat) ≤ n.toInt := n.le_toInt
  have high : n.toInt < 2 ^ (63 : Nat) := n.toInt_lt
  rw [int64?, if_pos ⟨low, high⟩, Int64.ofInt_toInt]

namespace Value

mutual

/-- What a document keeps of a value: a record becomes a plain object of its fields, and a float
that is no finite number becomes null, at every depth. -/
def documented : Value → Value
  | float x => if x.isFinite then float x else null
  | array items => array (documentedItems items)
  | object fields => object (documentedFields fields)
  | record _ fields => object (documentedFields fields)
  | simple => simple

def documentedItems : List Value → List Value
  | [] => []
  | item :: items => item.documented :: documentedItems items

def documentedFields : List (String × Value) → List (String × Value)
  | [] => []
  | (name, value) :: fields => (name, value.documented) :: documentedFields fields

end

mutual

def fitsDocument : Value → Bool
  | float x => x.isFinite
  | array items => itemsFitDocument items
  | object fields => fieldsFitDocument fields
  | record _ _ => false
  | _ => true

def itemsFitDocument : List Value → Bool
  | [] => true
  | item :: items => item.fitsDocument && itemsFitDocument items

def fieldsFitDocument : List (String × Value) → Bool
  | [] => true
  | (_, value) :: fields => value.fitsDocument && fieldsFitDocument fields

end

mutual

theorem ofJson_toJson : (value : Value) → ofJson value.toJson = value.documented
  | null | boolean _ | string _ => rfl
  | float x => by
      rw [toJson, documented]
      split <;> rfl
  | integer n => by
      rw [toJson, ofJson, Number.int64_toInt]
      rfl
  | array items => by
      rw [toJson, ofJson, documented, itemsOfJson_itemsToJson items]
  | object fields => by
      rw [toJson, ofJson, documented, fieldsOfJson_fieldsToJson fields]
  | record schema fields => by
      rw [toJson, ofJson, documented, fieldsOfJson_fieldsToJson fields]

theorem itemsOfJson_itemsToJson : (items : List Value) →
    itemsOfJson (itemsToJson items) = documentedItems items
  | [] => rfl
  | item :: items => by
      rw [itemsToJson, itemsOfJson, documentedItems, ofJson_toJson item,
        itemsOfJson_itemsToJson items]

theorem fieldsOfJson_fieldsToJson : (fields : List (String × Value)) →
    fieldsOfJson (fieldsToJson fields) = documentedFields fields
  | [] => rfl
  | (name, value) :: fields => by
      rw [fieldsToJson, fieldsOfJson, documentedFields, ofJson_toJson value,
        fieldsOfJson_fieldsToJson fields]

end

mutual

theorem documented_of_fits : (value : Value) → value.fitsDocument = true → value.documented = value
  | null, _ | boolean _, _ | string _, _ | integer _, _ => rfl
  | float x, fits => by
      rw [fitsDocument] at fits
      rw [documented, if_pos fits]
  | array items, fits => by
      rw [fitsDocument] at fits
      rw [documented, documentedItems_of_fit items fits]
  | object fields, fits => by
      rw [fitsDocument] at fits
      rw [documented, documentedFields_of_fit fields fits]
  | record schema fields, fits => by
      cases fits

theorem documentedItems_of_fit : (items : List Value) → itemsFitDocument items = true →
    documentedItems items = items
  | [], _ => rfl
  | item :: items, fit => by
      rw [itemsFitDocument, Bool.and_eq_true] at fit
      rw [documentedItems, documented_of_fits item fit.1, documentedItems_of_fit items fit.2]

theorem documentedFields_of_fit : (fields : List (String × Value)) →
    fieldsFitDocument fields = true → documentedFields fields = fields
  | [], _ => rfl
  | (name, value) :: fields, fit => by
      rw [fieldsFitDocument, Bool.and_eq_true] at fit
      rw [documentedFields, documented_of_fits value fit.1, documentedFields_of_fit fields fit.2]

end

mutual

theorem documented_fits : (value : Value) → value.documented.fitsDocument = true
  | null | boolean _ | string _ | integer _ => rfl
  | float x => by
      rw [documented]
      split
      · rename_i finite
        exact finite
      · rfl
  | array items => by
      rw [documented, fitsDocument]
      exact documentedItems_fit items
  | object fields => by
      rw [documented, fitsDocument]
      exact documentedFields_fit fields
  | record schema fields => by
      rw [documented, fitsDocument]
      exact documentedFields_fit fields

theorem documentedItems_fit : (items : List Value) →
    itemsFitDocument (documentedItems items) = true
  | [] => rfl
  | item :: items => by
      rw [documentedItems, itemsFitDocument, documented_fits item, documentedItems_fit items]
      rfl

theorem documentedFields_fit : (fields : List (String × Value)) →
    fieldsFitDocument (documentedFields fields) = true
  | [] => rfl
  | (name, value) :: fields => by
      rw [documentedFields, fieldsFitDocument, documented_fits value, documentedFields_fit fields]
      rfl

end

end Value

mutual

/-- Whether the integers in a document have 64 bits and its other numbers are finite, at every
depth. -/
def Json.fitsValue : Json → Bool
  | .number (.int n) => -2 ^ (63 : Nat) ≤ n && n < 2 ^ (63 : Nat)
  | .number (.float x) => x.isFinite
  | .array items => itemsFitValue items
  | .object members => membersFitValue members
  | _ => true

def itemsFitValue : List Json → Bool
  | [] => true
  | item :: items => item.fitsValue && itemsFitValue items

def membersFitValue : List (String × Json) → Bool
  | [] => true
  | (_, value) :: members => value.fitsValue && membersFitValue members

end

namespace Value

mutual

theorem toJson_fits : (value : Value) → value.toJson.fitsValue = true
  | null | boolean _ | string _ => rfl
  | float x => by
      rw [toJson]
      split
      · rename_i finite
        exact finite
      · rfl
  | integer n => by
      have low : -2 ^ (63 : Nat) ≤ n.toInt := n.le_toInt
      have high : n.toInt < 2 ^ (63 : Nat) := n.toInt_lt
      rw [toJson, Json.fitsValue, Bool.and_eq_true]
      exact ⟨decide_eq_true low, decide_eq_true high⟩
  | array items => by
      rw [toJson, Json.fitsValue]
      exact itemsToJson_fit items
  | object fields => by
      rw [toJson, Json.fitsValue]
      exact fieldsToJson_fit fields
  | record schema fields => by
      rw [toJson, Json.fitsValue]
      exact fieldsToJson_fit fields

theorem itemsToJson_fit : (items : List Value) → itemsFitValue (itemsToJson items) = true
  | [] => rfl
  | item :: items => by
      rw [itemsToJson, itemsFitValue, toJson_fits item, itemsToJson_fit items]
      rfl

theorem fieldsToJson_fit : (fields : List (String × Value)) →
    membersFitValue (fieldsToJson fields) = true
  | [] => rfl
  | (name, value) :: fields => by
      rw [fieldsToJson, membersFitValue, toJson_fits value, fieldsToJson_fit fields]
      rfl

end

mutual

theorem toJson_ofJson : (document : Json) → document.fitsValue = true →
    (ofJson document).toJson = document
  | .null, _ | .bool _, _ | .string _, _ => rfl
  | .number (.int n), fits => by
      rw [Json.fitsValue, Bool.and_eq_true] at fits
      have low := of_decide_eq_true fits.1
      have high := of_decide_eq_true fits.2
      rw [ofJson, Number.int64?, if_pos ⟨low, high⟩]
      dsimp only
      rw [toJson, Int64.toInt_ofInt_of_le low high]
  | .number (.float x), fits => by
      rw [Json.fitsValue] at fits
      rw [ofJson, toJson, if_pos fits]
  | .array items, fit => by
      rw [Json.fitsValue] at fit
      rw [ofJson, toJson, itemsToJson_itemsOfJson items fit]
  | .object members, fit => by
      rw [Json.fitsValue] at fit
      rw [ofJson, toJson, fieldsToJson_fieldsOfJson members fit]

theorem itemsToJson_itemsOfJson : (items : List Json) → itemsFitValue items = true →
    itemsToJson (itemsOfJson items) = items
  | [], _ => rfl
  | item :: items, fit => by
      rw [itemsFitValue, Bool.and_eq_true] at fit
      rw [itemsOfJson, itemsToJson, toJson_ofJson item fit.1, itemsToJson_itemsOfJson items fit.2]

theorem fieldsToJson_fieldsOfJson : (members : List (String × Json)) →
    membersFitValue members = true → fieldsToJson (fieldsOfJson members) = members
  | [], _ => rfl
  | (name, value) :: members, fit => by
      rw [membersFitValue, Bool.and_eq_true] at fit
      rw [fieldsOfJson, fieldsToJson, toJson_ofJson value fit.1,
        fieldsToJson_fieldsOfJson members fit.2]

end

end Value

/-- A value comes back from its document with plain objects for its records and null for its floats
that are no finite numbers. It comes back as it was just when it has neither. A document comes back
from its value just when its integers have 64 bits and its other numbers are finite. -/
theorem documents_round_trip :
    (∀ value : Value, Value.ofJson value.toJson = value.documented) ∧
      (∀ value : Value, Value.ofJson value.toJson = value ↔ value.fitsDocument = true) ∧
      ∀ document : Json, (Value.ofJson document).toJson = document ↔ document.fitsValue = true := by
  refine ⟨Value.ofJson_toJson, ?_, ?_⟩
  · intro value
    rw [Value.ofJson_toJson]
    constructor
    · intro same
      rw [← same]
      exact value.documented_fits
    · exact value.documented_of_fits
  · intro document
    constructor
    · intro same
      rw [← same]
      exact (Value.ofJson document).toJson_fits
    · exact Value.toJson_ofJson document

end TypedPath
