import TypedPath.Eval.Error
import TypedPath.Expr.Operator
import TypedPath.Number.DecimalOfFloat
import TypedPath.Pattern.Whole
import TypedPath.Value.Basic

/-! Operators on values. -/

namespace TypedPath

attribute [local instance (high)] instPowNat

def Value.decimal? : Value → Option Number.Decimal
  | .integer n => some (.ofInt64 n)
  | .float x => Number.Decimal.ofFloat x
  | _ => none

def integerPower? (base : Int64) (exponent : Nat) : Option Int64 :=
  if base.toInt.natAbs ≤ 1 then
    some (if exponent = 0 then 1 else if exponent % 2 = 1 then base else base * base)
  else if 64 ≤ exponent then none
  else Number.int64? (base.toInt ^ exponent)

/-- Powers: exact on integers with an exponent from 0 to `2 ^ 32 - 1`, otherwise in floats, brought
back to an integer when the base is one. -/
def power (left right : Value) : Except EvalError Value :=
  match left, right with
  | .integer a, .integer b =>
    if 0 ≤ b then
      match (if b.toInt < 2 ^ (32 : Nat) then integerPower? a b.toInt.toNat else none) with
      | some n => .ok (.integer n)
      | none => .error (.type (.overflow .power (toString a.toInt) (toString b.toInt)))
    else
      .ok (.integer (Number.truncateToInt64 ((Float.ofInt a.toInt).pow (Float.ofInt b.toInt))))
  | .integer a, .float y =>
    .ok (.integer (Number.truncateToInt64 ((Float.ofInt a.toInt).pow y)))
  | .float x, .integer b => .ok (.float (x.pow (Float.ofInt b.toInt)))
  | .float x, .float y => .ok (.float (x.pow y))
  | left, right => .error (.type (.noPower left.kind right.kind))

def decimalOperation (op : Operator) (a b : Number.Decimal) : Option Number.Decimal :=
  match op with
  | .add => a.add b
  | .subtract => a.sub b
  | .multiply => a.mul b
  | .divide => a.div b
  | _ => a.rem b

def resultLike (left : Value) (result : Number.Decimal) : Except EvalError Value :=
  match left with
  | .integer _ =>
    match result.toInt64? with
    | some n => .ok (.integer n)
    | none => .error (.type (.misfit result.text))
  | _ => .ok (.float result.toFloat)

def decimalArithmetic (op : Operator) (left right : Value) : Except EvalError Value :=
  match left.decimal?, right.decimal? with
  | some a, some b =>
    if (op = .divide ∨ op = .modulo) ∧ b.isZero then .error .divisionByZero
    else
      match decimalOperation op a b with
      | some result => resultLike left result
      | none => .error (.type (.overflow op a.text b.text))
  | _, _ => .error (.type (.inapplicable op left.kind right.kind))

def arithmetic (listing : Listing) (op : Operator) (left right : Value) :
    Except EvalError Value :=
  match op, left with
  | .add, .string s => .ok (.string (s ++ right.text listing))
  | .power, _ => power left right
  | _, _ => decimalArithmetic op left right

def Value.equals (left right : Value) : Bool :=
  match left, right with
  | .integer a, .float y => Float.ofInt a.toInt == y
  | .float x, .integer b => x == Float.ofInt b.toInt
  | _, _ => left.same right

def compareFloats (x y : Float) : Option Ordering :=
  if x < y then some .lt else if x == y then some .eq else if y < x then some .gt else none

def Value.compare? (left right : Value) : Option Ordering :=
  match left, right with
  | .integer a, .integer b => some (compare a b)
  | .string a, .string b => some (compare a b)
  | .boolean a, .boolean b => some (compare a b)
  | _, _ =>
    match left.float?, right.float? with
    | some x, some y => compareFloats x y
    | _, _ => none

def ordering (op : Operator) (test : Ordering → Bool) (left right : Value) :
    Except EvalError Value :=
  match left.compare? right with
  | some order => .ok (.boolean (test order))
  | none => .error (.type (.incomparable op left.kind right.kind))

def Value.holds (collection item : Value) : Except EvalError Bool :=
  match collection with
  | .array items => .ok (items.any (·.equals item))
  | .null => .ok false
  | other => .error (.type (.notSearchable other.kind))

def Value.isLike (listing : Listing) (value pattern : Value) : Except EvalError Bool :=
  match pattern with
  | .string source =>
    match Pattern.whole? source with
    | some compiled =>
      match value with
      | .null => .ok false
      | other => .ok (compiled.occursIn (other.text listing))
    | none => .error (.invalidPattern source)
  | other => .error (.type (.patternNotText other.kind))

def Operator.operate (listing : Listing) (op : Operator) (left right : Value) :
    Except EvalError Value :=
  match op with
  | .add | .subtract | .multiply | .divide | .modulo | .power =>
    arithmetic listing op left right
  | .increase => arithmetic listing .add left (.integer 1)
  | .decrease => arithmetic listing .add left (.integer (-1))
  | .equals => .ok (.boolean (left.equals right))
  | .notEquals => .ok (.boolean (!left.equals right))
  | .less => ordering op (· == .lt) left right
  | .lessOrEqual => ordering op (· != .gt) left right
  | .greater => ordering op (· == .gt) left right
  | .greaterOrEqual => ordering op (· != .lt) left right
  | .and => .ok (.boolean (left.isTrue && right.isTrue))
  | .or => .ok (.boolean (left.isTrue || right.isTrue))
  | .bitAnd =>
    match left, right with
    | .integer a, .integer b => .ok (.integer (a &&& b))
    | _, _ => .ok (.boolean (left.isTrue && right.isTrue))
  | .bitOr =>
    match left, right with
    | .integer a, .integer b => .ok (.integer (a ||| b))
    | _, _ => .ok (.boolean (left.isTrue || right.isTrue))
  | .xor => .ok (.boolean (left.isTrue != right.isTrue))
  | .notXor => .ok (.boolean (left.isTrue == right.isTrue))
  | .not => .ok (.boolean (!right.isTrue))
  | .isIn => (right.holds left).map .boolean
  | .notIn => (right.holds left).map fun found => .boolean (!found)
  | .like => (left.isLike listing right).map .boolean
  | .unlike => (left.isLike listing right).map fun found => .boolean (!found)

end TypedPath
