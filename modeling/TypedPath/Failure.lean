import TypedPath.Eval.Error

/-! Why an expression can not be built, typed or turned into a storage path at all. -/

namespace TypedPath

inductive Failure where
  | unknownKind (name : String)
  | notAnOperation (tree : String)
  | noOperator (operation : String)
  | unexpectedPart (part operation : String)
  | malformedLiteral (operation : String)
  | unknownField (name schema : String)
  | notARecord (field : String)
  | noContext (name : String)
  | unresolvedMethod (name : String) (cause : MethodFault)
  | notAPath (operation : String)
  | filterInStoragePath (bracket : String)
  | nonNumericIndex (bracket value : String)
  | negativeIndex (index : Int64)
  | tooDeep (limit : Nat)
  | evaluation (cause : EvalError)
  deriving DecidableEq, Repr

def Failure.message : Failure → String
  | unknownKind name => "unknown operation type: " ++ name
  | notAnOperation tree => "can not build an operation from " ++ tree
  | noOperator operation => "no operator found in " ++ operation
  | unexpectedPart part operation =>
    "not expecting part " ++ part ++ " at this point in " ++ operation
  | malformedLiteral operation =>
    "the literal operation " ++ operation ++ " must have exactly one literal value"
  | unknownField name schema => "can not find '" ++ name ++ "' in " ++ schema
  | notARecord field =>
    "the field '" ++ field ++ "' is not complex, further path access is impossible"
  | noContext name => "no schema context available to resolve '" ++ name ++ "'"
  | unresolvedMethod name _ => "could not find method: " ++ name
  | notAPath operation => operation ++ " is not a variable path"
  | filterInStoragePath bracket =>
    "the part " ++ bracket ++ " is a filter, storage paths only support numeric indexes"
  | nonNumericIndex bracket value =>
    "the part " ++ bracket ++ " is not numeric, it resolves to: " ++ value
  | negativeIndex index => "can not have an index below 0: " ++ toString index.toInt
  | tooDeep limit => "expression nesting exceeds the maximum depth of " ++ toString limit
  | evaluation cause => cause.message

end TypedPath
