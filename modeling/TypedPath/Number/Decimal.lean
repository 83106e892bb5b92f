import TypedPath.Number.Binary64
import TypedPath.Number.FloatText

/-! Decimals of limited size: a sign, a coefficient below `2 ^ 96` and a scale of at most 28 places.

Sums and products are exact where they fit and rounded once, half to even, where they do not;
`none` means that no decimal is near enough. -/

namespace TypedPath.Number

-- Powers are those of the core library, whatever else is imported.
attribute [local instance (high)] instPowNat

def Decimal.bound : Nat := 2 ^ (96 : Nat)

def Decimal.maxScale : Nat := 28

/-- The number `coefficient / 10 ^ scale`, negated when `negative` holds. -/
structure Decimal where
  negative : Bool
  coefficient : Nat
  scale : Nat
  small : coefficient < Decimal.bound
  places : scale ≤ Decimal.maxScale
  deriving DecidableEq, Repr

namespace Decimal

theorem bound_pos : 0 < bound := Nat.two_pow_pos _

def zero : Decimal := ⟨false, 0, 0, bound_pos, Nat.zero_le _⟩

def isZero (d : Decimal) : Bool := d.coefficient == 0

def withSign (negative : Bool) (coefficient scale : Nat) (small : coefficient < bound)
    (places : scale ≤ maxScale) : Decimal :=
  ⟨negative && coefficient != 0, coefficient, scale, small, places⟩

def atScale (d : Decimal) (scale : Nat) : Int :=
  signed d.negative (d.coefficient * 10 ^ (scale - d.scale))

def divideHalfEven (n d : Nat) : Nat :=
  let q := n / d
  let r := n % d
  if 2 * r < d then q
  else if d < 2 * r then q + 1
  else if q % 2 = 0 then q else q + 1

/-- The decimal nearest to `n / 10 ^ scale` at the largest scale up to `target` at which its
coefficient stays below the bound. -/
def shrink (negative : Bool) (n scale : Nat) : (target : Nat) → target ≤ maxScale → Option Decimal
  | 0, places =>
    let c := divideHalfEven n (10 ^ scale)
    if small : c < bound then some (withSign negative c 0 small places) else none
  | target + 1, places =>
    let c := divideHalfEven n (10 ^ (scale - (target + 1)))
    if small : c < bound then some (withSign negative c (target + 1) small places)
    else shrink negative n scale target (Nat.le_of_succ_le places)

def fit (negative : Bool) (n scale : Nat) : Option Decimal :=
  shrink negative n scale (min scale maxScale) (Nat.min_le_right _ _)

def ofInt64 (n : Int64) : Decimal :=
  withSign (n.toInt < 0) n.toInt.natAbs 0
    (Nat.lt_of_le_of_lt (natAbs_toInt_le n) (by decide)) (Nat.zero_le _)

def negate (d : Decimal) : Decimal :=
  withSign (!d.negative) d.coefficient d.scale d.small d.places

def add (a b : Decimal) : Option Decimal :=
  if a.isZero then some b
  else if b.isZero then some a
  else
    let scale := max a.scale b.scale
    let sum := a.atScale scale + b.atScale scale
    fit (sum < 0) sum.natAbs scale

def sub (a b : Decimal) : Option Decimal := add a b.negate

def mul (a b : Decimal) : Option Decimal :=
  if a.isZero || b.isZero then some zero
  else fit (a.negative != b.negative) (a.coefficient * b.coefficient) (a.scale + b.scale)

/-- The quotient of `n / 10 ^ s` by `d / 10 ^ t` with the most places, up to `target`, at which its
rounded coefficient stays below the bound. -/
def quotient (negative : Bool) (n s d t : Nat) :
    (target : Nat) → target ≤ maxScale → Option Decimal
  | 0, places =>
    let c := divideHalfEven (n * 10 ^ t) (d * 10 ^ s)
    if small : c < bound then some (withSign negative c 0 small places) else none
  | target + 1, places =>
    let c := divideHalfEven (n * 10 ^ (t + (target + 1))) (d * 10 ^ s)
    if small : c < bound then some (withSign negative c (target + 1) small places)
    else quotient negative n s d t target (Nat.le_of_succ_le places)

def stripZeros (n : Nat) : Nat → Nat × Nat
  | 0 => (n, 0)
  | scale + 1 => if n % 10 = 0 then stripZeros (n / 10) scale else (n, scale + 1)

theorem stripZeros_le (n scale : Nat) :
    (stripZeros n scale).1 ≤ n ∧ (stripZeros n scale).2 ≤ scale := by
  induction scale generalizing n with
  | zero => exact ⟨Nat.le_refl n, Nat.le_refl 0⟩
  | succ scale ih =>
      rw [stripZeros]
      split
      · obtain ⟨smaller, shorter⟩ := ih (n / 10)
        exact ⟨Nat.le_trans smaller (Nat.div_le_self n 10), Nat.le_succ_of_le shorter⟩
      · exact ⟨Nat.le_refl n, Nat.le_refl _⟩

def stripped (d : Decimal) : Decimal :=
  have fewer := stripZeros_le d.coefficient d.scale
  withSign d.negative (stripZeros d.coefficient d.scale).1 (stripZeros d.coefficient d.scale).2
    (Nat.lt_of_le_of_lt fewer.1 d.small) (Nat.le_trans fewer.2 d.places)

/-- The quotient by a decimal other than zero: exact when the coefficients divide, otherwise with
as many places as fit and no trailing zeros. -/
def div (a b : Decimal) : Option Decimal :=
  let negative := a.negative != b.negative
  if a.isZero then some zero
  else if a.coefficient % b.coefficient = 0 then
    let q := a.coefficient / b.coefficient
    if b.scale ≤ a.scale then
      some (withSign negative q (a.scale - b.scale)
        (Nat.lt_of_le_of_lt (Nat.div_le_self _ _) a.small)
        (Nat.le_trans (Nat.sub_le _ _) a.places))
    else
      let c := q * 10 ^ (b.scale - a.scale)
      if small : c < bound then some (withSign negative c 0 small (Nat.zero_le _)) else none
  else
    (quotient negative a.coefficient a.scale b.coefficient b.scale maxScale
      (Nat.le_refl _)).map stripped

theorem aligned_mod_lt (a b : Decimal) (nonzero : b.isZero = false) :
    a.coefficient * 10 ^ (max a.scale b.scale - a.scale) %
      (b.coefficient * 10 ^ (max a.scale b.scale - b.scale)) < bound := by
  rcases Nat.le_total a.scale b.scale with shorter | longer
  · have positive : 0 < b.coefficient := Nat.pos_of_ne_zero (bne_iff_ne.mp (congrArg not nonzero))
    rw [Nat.max_eq_right shorter, Nat.sub_self, Nat.pow_zero, Nat.mul_one]
    exact Nat.lt_trans (Nat.mod_lt _ positive) b.small
  · rw [Nat.max_eq_left longer, Nat.sub_self, Nat.pow_zero, Nat.mul_one]
    exact Nat.lt_of_le_of_lt (Nat.mod_le _ _) a.small

def rem (a b : Decimal) : Option Decimal :=
  if nonzero : b.isZero = false then
    let scale := max a.scale b.scale
    let m := a.coefficient * 10 ^ (scale - a.scale)
    let n := b.coefficient * 10 ^ (scale - b.scale)
    if m < n then some a
    else if m = n then some zero
    else
      some (withSign a.negative (m % n) scale (aligned_mod_lt a b nonzero)
        (Nat.max_le.mpr ⟨a.places, b.places⟩))
  else none

def toInt64? (d : Decimal) : Option Int64 :=
  int64? (signed d.negative (d.coefficient / 10 ^ d.scale))

def powerBySquaring (base : Float) (n : Nat) (result : Float) : Nat → Float
  | 0 => result
  | steps + 1 =>
    let result := if n % 2 = 1 then result * base else result
    if n / 2 = 0 then result else powerBySquaring (base * base) (n / 2) result steps

/-- The float of a decimal: integer part and fraction are brought together as floats, and the sum
is rounded to the decimal places that the decimal has. -/
def toFloat (d : Decimal) : Float :=
  let signed := fun (x : Float) => if d.negative then -x else x
  if d.scale = 0 then
    if d.isZero then 0 else signed (Float.ofNat d.coefficient)
  else
    let precision : Nat := 10 ^ d.scale
    let whole := Float.ofNat (d.coefficient / precision)
    let fraction := Float.ofNat (d.coefficient % precision) / Float.ofNat precision
    if fraction == 0 then signed whole
    else
      let factor := powerBySquaring 10 d.scale 1 5
      signed (roundUpHalf ((whole + fraction) * factor) / factor)

def text (d : Decimal) : String :=
  let ds := digits d.coefficient
  let ds := zeros (d.scale + 1 - ds.length) ++ ds
  let whole := ds.length - d.scale
  signText d.negative ++ String.ofList (ds.toList.take whole) ++
    if d.scale = 0 then "" else "." ++ String.ofList (ds.toList.drop whole)

end Decimal

end TypedPath.Number
