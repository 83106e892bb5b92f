import TypedPath.Number.FloatText

/-! Literal values in expressions. -/

namespace TypedPath

inductive Literal where
  | boolean (value : Bool)
  | string (value : String)
  | integer (value : Int64)
  | decimal (value : Float)

def Literal.text : Literal → String
  | boolean b => toString b
  | string s => "'" ++ s ++ "'"
  | integer n => toString n.toInt
  | decimal x => Number.floatText x

end TypedPath
