import TypedPath.Schema.ValueClass
import TypedPath.Text.Quoted

/-! Record types: named fields with a type, of which some hold many values. -/

namespace TypedPath

inductive Strategy where
  | list
  | array
  | custom (name : String)
  deriving DecidableEq, Repr

mutual

inductive Ty where
  | scalar (cls : ValueClass)
  | record (schema : Record)

structure Field where
  name : String
  ty : Ty
  isList : Bool
  strategy : Option Strategy

/-- A record type, which is always a table of its fields: a type that finds its fields in another
way, by code of its own, is not among those considered here. Of an unmodeled record only the name is
known: any field may be there. -/
structure Record where
  name : String
  fields : List Field
  unmodeled : Bool

end

def selfReference : String := "$this"

def rootMark : Char := '/'

def attributeMark : Char := '@'

def unmark? (mark : Char) (name : String) : Option String :=
  match name.toList with
  | c :: rest => if c = mark then some (String.ofList rest) else none
  | [] => none

namespace Record

def field? (schema : Record) (name : String) : Option Field :=
  schema.fields.find? (·.name == name)

def unknown (name : String) : Record := ⟨name, [], true⟩

end Record

namespace Ty

def ofClass : ValueClass → Ty
  | .content => .record (Record.unknown "content")
  | cls => .scalar cls

def isScalar : Ty → Bool
  | .scalar _ => true
  | .record _ => false

def isBoolean : Ty → Bool
  | .scalar .boolean => true
  | _ => false

def class? : Ty → Option ValueClass
  | .scalar cls => some cls
  | .record _ => none

def record? : Ty → Option Record
  | .scalar _ => none
  | .record schema => some schema

def valueClass : Ty → ValueClass
  | .scalar cls => cls
  | .record _ => .content

def isUnconstrained (ty : Ty) : Bool :=
  ty.class?.any ValueClass.isUnconstrained

/-- Records are the same type when they have the same name. -/
def same : Ty → Ty → Bool
  | .scalar a, .scalar b => a == b
  | .record a, .record b => a.name == b.name
  | _, _ => false

def text : Ty → String
  | .scalar cls => cls.text
  | .record schema => schema.name

end Ty

def Field.self (ty : Ty) : Field := ⟨selfReference, ty, false, none⟩

def Strategy.description : Strategy → String
  | .list => "List"
  | .array => "Array"
  | .custom name => "Custom(" ++ Text.quoted name ++ ")"

mutual

def Ty.description : Ty → String
  | .scalar cls => "Simple(" ++ cls.description ++ ")"
  | .record schema => "Complex(" ++ schema.description ++ ")"

def Field.description : Field → String
  | ⟨name, ty, isList, strategy⟩ =>
    "Element \x7b name: " ++ Text.quoted name ++ ", ty: " ++ ty.description ++
      ", list: " ++ toString isList ++ ", collection: " ++
      (match strategy with
        | none => "None"
        | some strategy => "Some(" ++ strategy.description ++ ")") ++ " \x7d"

def Record.description : Record → String
  | ⟨name, fields, unmodeled⟩ =>
    "Record \x7b name: " ++ Text.quoted name ++ ", elements: [" ++
      ", ".intercalate (fieldDescriptions fields) ++ "], opaque: " ++ toString unmodeled ++ " \x7d"

def fieldDescriptions : List Field → List String
  | [] => []
  | field :: fields => field.description :: fieldDescriptions fields

end

end TypedPath
