/-! Exact values of 64-bit binary floating point numbers and their passage to 64-bit integers. -/

namespace TypedPath.Number

-- Powers are those of the core library, whatever else is imported.
attribute [local instance (high)] instPowNat

/-- The value of a float: `finite s m e` is `m * 2 ^ e`, negated when `s` holds. -/
inductive Binary64 where
  | nan
  | infinite (negative : Bool)
  | finite (negative : Bool) (significand : Nat) (exponent : Int)
  deriving DecidableEq, Repr

def Binary64.ofFloat (x : Float) : Binary64 :=
  let bits := x.toBits.toNat
  let negative := decide (2 ^ (63 : Nat) ≤ bits)
  let biased : Nat := bits / 2 ^ (52 : Nat) % 2 ^ (11 : Nat)
  let fraction := bits % 2 ^ (52 : Nat)
  if biased = 2047 then
    if fraction = 0 then .infinite negative else .nan
  else if biased = 0 then .finite negative fraction (-1074)
  else .finite negative (2 ^ (52 : Nat) + fraction) ((biased : Int) - 1075)

theorem Binary64.significand_lt {x : Float} {negative : Bool} {m : Nat} {e : Int}
    (value : ofFloat x = .finite negative m e) : m < 2 ^ (53 : Nat) := by
  have fraction : x.toBits.toNat % 2 ^ (52 : Nat) < 2 ^ (52 : Nat) := Nat.mod_lt _ (by decide)
  unfold ofFloat at value
  dsimp only at value
  split at value
  · split at value <;> cases value
  · split at value <;> cases value <;> omega

def signed (negative : Bool) (magnitude : Nat) : Int :=
  if negative then -(magnitude : Int) else magnitude

def scaledFloor (m : Nat) (e : Int) : Nat :=
  if 0 ≤ e then m * 2 ^ e.toNat else m / 2 ^ (-e).toNat

def scaledRound (m : Nat) (e : Int) : Nat :=
  if 0 ≤ e then m * 2 ^ e.toNat
  else (2 * m + 2 ^ (-e).toNat) / 2 ^ ((-e).toNat + 1)

def scaledIsWhole (m : Nat) (e : Int) : Bool :=
  0 ≤ e || m % 2 ^ (-e).toNat == 0

def clampInt64 (n : Int) : Int64 :=
  if n < -2 ^ (63 : Nat) then Int64.minValue
  else if 2 ^ (63 : Nat) ≤ n then Int64.maxValue
  else Int64.ofInt n

def int64? (n : Int) : Option Int64 :=
  if -2 ^ (63 : Nat) ≤ n ∧ n < 2 ^ (63 : Nat) then some (Int64.ofInt n) else none

theorem natAbs_toInt_le (n : Int64) : n.toInt.natAbs ≤ 2 ^ (63 : Nat) := by
  have low := n.le_toInt
  have high := n.toInt_lt
  omega

def int64Bound (negative : Bool) : Int64 :=
  if negative then Int64.minValue else Int64.maxValue

/-- The integer part of a float within the 64-bit range; not a number gives zero. -/
def truncateToInt64 (x : Float) : Int64 :=
  match Binary64.ofFloat x with
  | .nan => 0
  | .infinite negative => int64Bound negative
  | .finite negative m e => clampInt64 (signed negative (scaledFloor m e))

/-- The nearest integer within the 64-bit range, halves away from zero; not a number gives zero. -/
def roundToInt64 (x : Float) : Int64 :=
  match Binary64.ofFloat x with
  | .nan => 0
  | .infinite negative => int64Bound negative
  | .finite negative m e => clampInt64 (signed negative (scaledRound m e))

def wholeInt64? (x : Float) : Option Int64 :=
  match Binary64.ofFloat x with
  | .finite _ m e => if scaledIsWhole m e then some (truncateToInt64 x) else none
  | _ => none

def roundUpHalf (x : Float) : Float :=
  match Binary64.ofFloat x with
  | .finite _ m e => Float.ofNat (scaledRound m e)
  | _ => x

end TypedPath.Number
