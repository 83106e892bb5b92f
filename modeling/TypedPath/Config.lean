import TypedPath.Expr.Literal
import TypedPath.Json.Phrase
import TypedPath.Schema.ValueClass

/-! What can be configured: the classes of numeric literals and the depth of nesting. -/

namespace TypedPath

attribute [local instance (high)] instPowNat

def ValueClass.ofName? : String → Option ValueClass
  | "boolean" => some .boolean
  | "string" => some .string
  | "integer" => some .integer
  | "long" => some .long
  | "float" => some .float
  | "double" => some .double
  | "decimal" => some .decimal
  | "number" => some .number
  | "date" => some .date
  | "object" => some .object
  | "content" => some .content
  | _ => none

/-- The class that a phrase names: a simple class by its name, or by its name with null; a
collection class as an object of one member. At most `depth` objects are nested. -/
def ValueClass.ofPhrase? : Nat → Phrase → Option ValueClass
  | _, .string name => name.bind ofName?
  | depth + 1, .object [(some "list", component)] => (ofPhrase? depth component).map .list
  | depth + 1, .object [(some "array", component)] => (ofPhrase? depth component).map .array
  | _ + 1, .object [(some name, .null)] => ofName? name
  | _, _ => none

structure Config where
  integerLiteral : ValueClass
  decimalLiteral : ValueClass
  maxDepth : Option Nat
  deriving DecidableEq, Repr

namespace Config

def standard : Config := ⟨.long, .double, some 256⟩

def classOf (config : Config) : Literal → ValueClass
  | .boolean _ => .boolean
  | .string _ => .string
  | .integer _ => config.integerLiteral
  | .decimal _ => config.decimalLiteral

def depthOfPhrase? : Phrase → Option (Option Nat)
  | .null => some none
  | .number n =>
    match Phrase.plainInt? n with
    | some i => if 0 ≤ i && i < 2 ^ (64 : Nat) then some (some i.toNat) else none
    | none => none
  | _ => none

def classDepth : Nat := 126

structure Draft where
  integerLiteral : Option ValueClass
  decimalLiteral : Option ValueClass
  maxDepth : Option (Option Nat)

/-- Sets one member. Unknown names are ignored, and a known one may be set only once. -/
def Draft.set? (config : Draft) : Option String × Phrase → Option Draft
  | (none, _) => none
  | (some "integer_literal", phrase) =>
    if config.integerLiteral.isSome then none
    else (ValueClass.ofPhrase? classDepth phrase).map fun cls =>
      { config with integerLiteral := some cls }
  | (some "decimal_literal", phrase) =>
    if config.decimalLiteral.isSome then none
    else (ValueClass.ofPhrase? classDepth phrase).map fun cls =>
      { config with decimalLiteral := some cls }
  | (some "max_depth", phrase) =>
    if config.maxDepth.isSome then none
    else (depthOfPhrase? phrase).map fun depth => { config with maxDepth := some depth }
  | (some _, _) => some config

def Draft.complete (config : Draft) : Config :=
  ⟨config.integerLiteral.getD standard.integerLiteral,
    config.decimalLiteral.getD standard.decimalLiteral,
    config.maxDepth.getD standard.maxDepth⟩

def memberNames : List String := ["integer_literal", "decimal_literal", "max_depth"]

/-- The configuration that a phrase describes, as an object or as an array of its members. -/
def ofPhrase? : Phrase → Option Config
  | .object members => (members.foldlM Draft.set? ⟨none, none, none⟩).map Draft.complete
  | .array items =>
    if memberNames.length < items.length then none
    else
      let members := (memberNames.map some).zip items
      (members.foldlM Draft.set? ⟨none, none, none⟩).map Draft.complete
  | _ => none

def parse? (text : String) : Option Config := (Phrase.parse? text).bind ofPhrase?

end Config

end TypedPath
