/-! Operators and the groups that decide their typing. -/

namespace TypedPath

inductive Operator where
  | add | subtract | multiply | divide | modulo | power
  | increase | decrease
  | equals | notEquals
  | less | lessOrEqual | greater | greaterOrEqual
  | and | or | bitAnd | bitOr | xor | notXor | not
  | isIn | notIn
  | like | unlike
  deriving DecidableEq, Repr

inductive OperatorGroup where
  | arithmetic | increment | equality | ordering | boolean | membership | pattern
  deriving DecidableEq, Repr

namespace Operator

def all : List Operator :=
  [add, subtract, multiply, divide, modulo, power, increase, decrease, equals, notEquals, less,
    lessOrEqual, greater, greaterOrEqual, and, or, bitAnd, bitOr, xor, notXor, not, isIn, notIn,
    like, unlike]

def symbol : Operator → String
  | add => "+"
  | subtract => "-"
  | multiply => "*"
  | divide => "/"
  | modulo => "%"
  | power => "**"
  | increase => "++"
  | decrease => "--"
  | equals => "=="
  | notEquals => "!="
  | less => "<"
  | lessOrEqual => "<="
  | greater => ">"
  | greaterOrEqual => ">="
  | and => "&&"
  | or => "||"
  | bitAnd => "&"
  | bitOr => "|"
  | xor => "^"
  | notXor => "!^"
  | not => "!"
  | isIn => "#"
  | notIn => "!#"
  | like => "~"
  | unlike => "!~"

def ofSymbol? (symbol : String) : Option Operator :=
  all.find? (·.symbol == symbol)

def group : Operator → OperatorGroup
  | add | subtract | multiply | divide | modulo | power => .arithmetic
  | increase | decrease => .increment
  | equals | notEquals => .equality
  | less | lessOrEqual | greater | greaterOrEqual => .ordering
  | and | or | bitAnd | bitOr | xor | notXor | not => .boolean
  | isIn | notIn => .membership
  | like | unlike => .pattern

def takesLeft : Operator → Bool
  | not => false
  | _ => true

def takesRight : Operator → Bool
  | increase | decrease => false
  | _ => true

def takesRecords (op : Operator) : Bool :=
  match op.group with
  | .boolean | .equality | .membership => true
  | _ => false

end Operator

end TypedPath
