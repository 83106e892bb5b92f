import TypedPath.Eval.Error
import TypedPath.Value.Content

/-! Steps from a value into its fields and items. -/

namespace TypedPath

namespace Value

/-- Appends what a step gives for one item: nothing for null, and the items of a collection. -/
def gather : Value → List Value → List Value
  | null, rest => rest
  | array items, rest => items ++ rest
  | other, rest => other :: rest

mutual

def select (name : String) : Value → Value
  | array items => array (selectAll name items)
  | object fields => (Content.map fields).read name
  | record schema fields => (Content.record schema fields).read name
  | _ => null

def selectAll (name : String) : List Value → List Value
  | [] => []
  | item :: items => (select name item).gather (selectAll name items)

end

def index? : Value → Option Int64
  | integer n => some n
  | float x => Number.wholeInt64? x
  | _ => none

/-- The item at a position; a negative one counts from the end, and there is null beyond the
ends. -/
def itemAt (items : List Value) (position : Int64) : Value :=
  if position < 0 then
    let back := position.toInt.natAbs
    if items.length < back then null else (items[items.length - back]?).getD null
  else (items[position.toInt.toNat]?).getD null

def item (value index : Value) : Except EvalError Value :=
  match index.index? with
  | none => .error (.access (.notAnIndex index.kind))
  | some position =>
    match value with
    | array items => .ok (itemAt items position)
    | null => .ok null
    | other => .error (.type (.notIndexable other.kind))

def filterItems : Value → List Value
  | array items => items
  | null => []
  | single => [single]

end Value

end TypedPath
