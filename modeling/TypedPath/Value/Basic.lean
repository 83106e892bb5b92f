import TypedPath.Schema.Record
import TypedPath.Value.Fields
import TypedPath.Number.FloatText
import TypedPath.Json.Basic

/-! Values that expressions are evaluated to. -/

namespace TypedPath

/-- A value at run time. Integers and floats are kept apart. An object is a plain map of names, a
record value is an instance of a record type. The order in which their fields stand here has no
meaning: a text lists them in an order of its own. -/
inductive Value where
  | null
  | boolean (value : Bool)
  | float (value : Float)
  | integer (value : Int64)
  | string (value : String)
  | array (items : List Value)
  | object (fields : List (String × Value))
  | record (schema : Record) (fields : List (String × Value))

/-- The order in which a text lists the members of a map, which can be any. -/
structure Listing where
  arrange : List String → List String
  perm : ∀ members, (arrange members).Perm members

def Listing.asGiven : Listing := ⟨id, fun members => .refl members⟩

inductive ValueKind where
  | null
  | boolean
  | integer
  | float
  | string
  | array
  | object
  | content
  deriving DecidableEq, Repr

def ValueKind.text : ValueKind → String
  | null => "null"
  | boolean => "boolean"
  | integer => "integer"
  | float => "float"
  | string => "string"
  | array => "array"
  | object => "object"
  | content => "content"

namespace Value

def kind : Value → ValueKind
  | null => .null
  | boolean _ => .boolean
  | float _ => .float
  | integer _ => .integer
  | string _ => .string
  | array _ => .array
  | object _ => .object
  | record _ _ => .content

def isTrue : Value → Bool
  | null => false
  | boolean b => b
  | float x => 0 < x
  | integer n => 0 < n
  | string s => s != ""
  | array items => !items.isEmpty
  | object fields => !fields.isEmpty
  | record _ _ => true

def float? : Value → Option Float
  | integer n => some (Float.ofInt n.toInt)
  | float x => some x
  | _ => none

def int? : Value → Option Int64
  | integer n => some n
  | float x => some (Number.roundToInt64 x)
  | _ => none

mutual

/-- Equality of values: a float that is no number differs from itself, objects are equal whatever
the order of their fields, and records also need types of one name. -/
def same : Value → Value → Bool
  | null, null => true
  | boolean a, boolean b => a == b
  | float a, float b => a == b
  | integer a, integer b => a == b
  | string a, string b => a == b
  | array a, array b => sameItems a b
  | object a, object b => a.length == b.length && sameFields a b
  | record s a, record t b => s.name == t.name && a.length == b.length && sameFields a b
  | _, _ => false

def sameItems : List Value → List Value → Bool
  | [], [] => true
  | a :: as, b :: bs => a.same b && sameItems as bs
  | _, _ => false

def sameFields : List (String × Value) → List (String × Value) → Bool
  | [], _ => true
  | (name, value) :: fields, others =>
    (match lookupField name others with
      | some other => value.same other
      | none => false) && sameFields fields others

end

mutual

def description (listing : Listing) : Value → String
  | null => "Null"
  | boolean b => "Boolean(" ++ toString b ++ ")"
  | float x => "Float(" ++ Number.floatDescription x ++ ")"
  | integer n => "Integer(" ++ toString n.toInt ++ ")"
  | string s => "String(" ++ Text.quoted s ++ ")"
  | array items => "Array([" ++ ", ".intercalate (itemDescriptions listing items) ++ "])"
  | object fields =>
    "Object(\x7b" ++
      ", ".intercalate (listing.arrange (memberDescriptions listing fields)) ++ "\x7d)"
  | record schema fields =>
    "Content(ComplexContent \x7b schema: " ++ schema.description ++ ", fields: \x7b" ++
      ", ".intercalate (listing.arrange (memberDescriptions listing fields)) ++ "\x7d \x7d)"

def itemDescriptions (listing : Listing) : List Value → List String
  | [] => []
  | item :: items => item.description listing :: itemDescriptions listing items

def memberDescriptions (listing : Listing) : List (String × Value) → List String
  | [] => []
  | (name, value) :: fields =>
    (Text.quoted name ++ ": " ++ value.description listing) :: memberDescriptions listing fields

end

def text (listing : Listing) : Value → String
  | string s => s
  | float x => Number.floatText x
  | integer n => toString n.toInt
  | boolean b => toString b
  | null => "null"
  | structured => structured.description listing

mutual

/-- The value of a document. Integers outside the 64-bit range become floats. -/
def ofJson : Json → Value
  | .null => null
  | .bool b => boolean b
  | .number (.int n) =>
    match Number.int64? n with
    | some n => integer n
    | none => float (Float.ofInt n)
  | .number (.float x) => float x
  | .string s => string s
  | .array items => array (itemsOfJson items)
  | .object members => object (fieldsOfJson members)

def itemsOfJson : List Json → List Value
  | [] => []
  | item :: items => ofJson item :: itemsOfJson items

def fieldsOfJson : List (String × Json) → List (String × Value)
  | [] => []
  | (name, value) :: members => (name, ofJson value) :: fieldsOfJson members

end

mutual

/-- The document of a value. Floats that are no finite number become null, and records become plain
objects of the fields that are set. -/
def toJson : Value → Json
  | null => .null
  | boolean b => .bool b
  | integer n => .number (.int n.toInt)
  | float x => if x.isFinite then .number (.float x) else .null
  | string s => .string s
  | array items => .array (itemsToJson items)
  | object fields => .object (fieldsToJson fields)
  | record _ fields => .object (fieldsToJson fields)

def itemsToJson : List Value → List Json
  | [] => []
  | item :: items => item.toJson :: itemsToJson items

def fieldsToJson : List (String × Value) → List (String × Json)
  | [] => []
  | (name, value) :: fields => (name, value.toJson) :: fieldsToJson fields

end

end Value

end TypedPath
