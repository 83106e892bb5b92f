import TypedPath.Eval.Error

/-! Methods by name and number of arguments. -/

namespace TypedPath

/-- A declared parameter. A coerced one takes every number, or every boolean, of its sort. -/
structure Parameter where
  cls : ValueClass
  coerced : Bool
  deriving DecidableEq, Repr

inductive Returns where
  | value (cls : ValueClass)
  | record (schema : Record)

/-- A method with its parameters. Without an implementation it can be typed, but not called. -/
structure Signature where
  name : String
  parameters : List Parameter
  returns : Returns
  implementation : Option (List Value → Except EvalError Value)

def Signature.arity (signature : Signature) : Nat := signature.parameters.length

def Signature.Differs (signature other : Signature) : Prop :=
  signature.name ≠ other.name ∨ signature.arity ≠ other.arity

structure Registry where
  signatures : List Signature
  distinct : signatures.Pairwise Signature.Differs

namespace Registry

def empty : Registry := ⟨[], List.Pairwise.nil⟩

def others (registry : Registry) (signature : Signature) : List Signature :=
  registry.signatures.filter fun old => old.name != signature.name || old.arity != signature.arity

theorem distinct_others (registry : Registry) (signature : Signature) :
    (registry.others signature ++ [signature]).Pairwise Signature.Differs := by
  rw [List.pairwise_append]
  refine ⟨registry.distinct.sublist List.filter_sublist, List.pairwise_singleton _ _, ?_⟩
  intro old kept last single
  obtain rfl := List.mem_singleton.mp single
  simpa [Signature.Differs] using (List.mem_filter.mp kept).2

def register (registry : Registry) (signature : Signature) : Registry :=
  ⟨registry.others signature ++ [signature], registry.distinct_others signature⟩

def resolve (registry : Registry) (name : String) (arity : Nat) : Except MethodFault Signature :=
  let overloads := registry.signatures.filter (·.name == name)
  if overloads.isEmpty then .error (.notFound name)
  else
    match overloads.find? (·.arity == arity) with
    | some signature => .ok signature
    | none => .error (.arity name arity)

end Registry

def Parameter.description (parameter : Parameter) : String :=
  "Parameter \x7b class: " ++ parameter.cls.description ++ ", coerced: " ++
    toString parameter.coerced ++ " \x7d"

def Returns.description : Returns → String
  | value cls => "Native(" ++ cls.description ++ ")"
  | record schema => "Complex(" ++ schema.description ++ ")"

def Signature.description (signature : Signature) : String :=
  "Signature \x7b name: " ++ Text.quoted signature.name ++ ", parameters: [" ++
    ", ".intercalate (signature.parameters.map Parameter.description) ++ "], returns: " ++
    signature.returns.description ++ ", implemented: " ++
    toString signature.implementation.isSome ++ " \x7d"

end TypedPath
