/-! JSON documents. -/

namespace TypedPath

inductive JsonNumber where
  | int (value : Int)
  | float (value : Float)

/-- A JSON document. The order of the members of an object has no meaning. -/
inductive Json where
  | null
  | bool (value : Bool)
  | number (value : JsonNumber)
  | string (value : String)
  | array (items : List Json)
  | object (members : List (String × Json))

inductive Json.NamesDiffer : Json → Prop where
  | null : NamesDiffer .null
  | bool (value : Bool) : NamesDiffer (.bool value)
  | number (value : JsonNumber) : NamesDiffer (.number value)
  | string (value : String) : NamesDiffer (.string value)
  | array {items : List Json} (inside : ∀ item ∈ items, item.NamesDiffer) :
    NamesDiffer (.array items)
  | object {members : List (String × Json)} (names : (members.map Prod.fst).Nodup)
    (inside : ∀ member ∈ members, member.2.NamesDiffer) : NamesDiffer (.object members)

/-- A document as it is read from a text: its objects name each member once. -/
structure Document where
  json : Json
  namesDiffer : json.NamesDiffer

end TypedPath
