import TypedPath.Number.Binary64

/-! The fewest decimal digits that read back as a given float.

A float `m * 2 ^ e` is the nearest float to every real number of an interval around it, whose ends
belong to it when `m` is even. The digits are those of a decimal in that interval on the coarsest
possible power of ten; of two such decimals the nearer one is taken, and the larger one on a tie. -/

namespace TypedPath.Number

attribute [local instance (high)] instPowNat

structure ShortDecimal where
  coefficient : Nat
  exponent : Int
  deriving DecidableEq, Repr

/-- A positive rational with the ends of the interval of reals that round to it, all over the same
denominator. -/
structure RoundingInterval where
  low : Nat
  value : Nat
  high : Nat
  denominator : Nat
  closed : Bool

/-- The interval of `m * 2 ^ e`. The float below a power of two is only half as far away. -/
def RoundingInterval.of (m : Nat) (e : Int) : RoundingInterval :=
  let scale : Nat := 2 ^ (e - 2).toNat
  { low := (4 * m - if m = 2 ^ (52 : Nat) then 1 else 2) * scale
    value := 4 * m * scale
    high := (4 * m + 2) * scale
    denominator := 2 ^ (2 - e).toNat
    closed := m % 2 == 0 }

def RoundingInterval.covers (interval : RoundingInterval) (n d : Nat) : Bool :=
  let left := n * interval.denominator
  if interval.closed then interval.low * d ≤ left && left ≤ interval.high * d
  else interval.low * d < left && left < interval.high * d

def RoundingInterval.onGrid? (interval : RoundingInterval) (p : Int) : Option Nat :=
  let up : Nat := 10 ^ p.toNat
  let down : Nat := 10 ^ (-p).toNat
  let numerator := interval.value * down
  let step := interval.denominator * up
  let below := numerator / step
  let coversBelow := interval.covers (below * up) down
  let coversAbove := interval.covers ((below + 1) * up) down
  if coversBelow && coversAbove then
    if 2 * (numerator % step) < step then some below else some (below + 1)
  else if coversBelow then some below
  else if coversAbove then some (below + 1)
  else none

def RoundingInterval.search (interval : RoundingInterval) (p : Int) : Nat → ShortDecimal
  | 0 => ⟨interval.value * 10 ^ (-p).toNat / (interval.denominator * 10 ^ p.toNat), p⟩
  | tries + 1 =>
    match interval.onGrid? p with
    | some coefficient => ⟨coefficient, p⟩
    | none => interval.search (p - 1) tries

def decimalBound (m : Nat) (e : Int) : Int :=
  ((m.log2 : Int) + e + 1) * 30103 / 100000 + 1

/-- The fewest digits that round to `m * 2 ^ e`, for a significand of 1 to 53 bits. -/
def shortest (m : Nat) (e : Int) : ShortDecimal :=
  (RoundingInterval.of m e).search (decimalBound m e) 24

end TypedPath.Number
