import TypedPath.Value.Basic

/-! Structured data with named fields: plain maps, JSON objects and instances of record types. -/

namespace TypedPath

/-- Where fields are read from and written to. Maps, documents and instances are all the kinds there
are: what keeps its fields in another way, by code of its own, is not considered here. The order in
which values stand has no meaning. -/
inductive Content where
  | map (fields : List (String × Value))
  | document (members : List (String × Json))
  | record (schema : Record) (fields : List (String × Value))

inductive WriteError where
  | unknownField (name : String) (schema : String)
  deriving DecidableEq, Repr

def WriteError.message : WriteError → String
  | unknownField name schema => "the type " ++ schema ++ " has no field '" ++ name ++ "'"

namespace Content

def get? (content : Content) (name : String) : Option Value :=
  match content with
  | map fields => lookupField name fields
  | document members => (lookupField name members).map Value.ofJson
  | record _ fields => lookupField name fields

def set (content : Content) (name : String) (value : Value) : Except WriteError Content :=
  match content with
  | map fields => .ok (map (putField name value fields))
  | document members => .ok (document (putField name value.toJson members))
  | record schema fields =>
    if !schema.unmodeled && (schema.field? name).isNone then
      .error (.unknownField name schema.name)
    else .ok (record schema (putField name value fields))

def names : Content → List String
  | map fields => fields.map Prod.fst
  | document members => members.map Prod.fst
  | record schema fields =>
    if schema.unmodeled then fields.map Prod.fst else schema.fields.map Field.name

/-- Reads a field, under its name without the attribute mark when it is not there with it. -/
def read (content : Content) (name : String) : Value :=
  match content.get? name with
  | some value => value
  | none => ((unmark? attributeMark name).bind content.get?).getD .null

end Content

def Value.content? : Value → Option Content
  | .object fields => some (.map fields)
  | .record schema fields => some (.record schema fields)
  | _ => none

end TypedPath
