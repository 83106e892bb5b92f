import TypedPath.Number.Decimal

/-! The decimal that stands for a float.

A float `m * 2 ^ e` is carried to `c * 10 ^ k` by trading factors of two for factors of five, as far
as the coefficient has room; then the coefficient is cut to about sixteen digits. -/

namespace TypedPath.Number.Decimal

attribute [local instance (high)] instPowNat

/-- A number `coefficient * 10 ^ exponent` on its way to a decimal. -/
structure Scaled where
  coefficient : Nat
  exponent : Int
  small : coefficient < bound

namespace Scaled

def half (x : Scaled) : Scaled :=
  ⟨x.coefficient / 2, x.exponent + 1, Nat.lt_of_le_of_lt (Nat.div_le_self _ _) x.small⟩

/-- Takes `n` halves: `c * 10 ^ k / 2 ^ n * 5 ^ n`, where a factor of five that finds no room is
given up together with a factor of two. -/
def halve (x : Scaled) : Nat → Scaled
  | 0 => x
  | n + 1 =>
    if x.coefficient % 2 = 0 then halve x.half n
    else if room : 5 * x.coefficient < bound then halve ⟨5 * x.coefficient, x.exponent, room⟩ n
    else halve x.half n

/-- Takes out `n` factors of five, or puts in factors of two while there is room. -/
def double (x : Scaled) : Nat → Option Scaled
  | 0 => some x
  | n + 1 =>
    if room : x.coefficient < bound / 2 then
      double ⟨2 * x.coefficient, x.exponent - 1, by omega⟩ n
    else if (n : Int) + 1 < 2 * x.exponent then none
    else
      double
        ⟨x.coefficient / 5, x.exponent, Nat.lt_of_le_of_lt (Nat.div_le_self _ _) x.small⟩ n

def grow (x : Scaled) : Nat → Option Scaled
  | 0 => some x
  | n + 1 =>
    if room : 10 * x.coefficient < bound then
      grow ⟨10 * x.coefficient, x.exponent - 1, room⟩ n
    else none

def cutDigit (x : Scaled) : Scaled :=
  ⟨x.coefficient / 10 + if 5 ≤ x.coefficient % 10 then 1 else 0, x.exponent + 1, by
    have small := x.small
    split <;> omega⟩

def cut (x : Scaled) : Nat → Scaled
  | 0 => x
  | n + 1 => if x.coefficient / 10 = 0 then ⟨0, 0, bound_pos⟩ else cut x.cutDigit n

def cutToPrecision (x : Scaled) : Nat → Scaled
  | 0 => x
  | n + 1 => if 2 ^ (52 : Nat) ≤ x.coefficient then cutToPrecision x.cutDigit n else x

def trim (x : Scaled) : Nat → Scaled
  | 0 => x
  | n + 1 =>
    if x.coefficient % 10 = 0 then
      trim
        ⟨x.coefficient / 10, x.exponent + 1, Nat.lt_of_le_of_lt (Nat.div_le_self _ _) x.small⟩ n
    else x

def settle (x : Scaled) : Scaled :=
  let x := x.cut (-28 - x.exponent).toNat
  let x := x.cutToPrecision (-x.exponent).toNat
  x.trim (-x.exponent).toNat

theorem le_exponent_cut (x : Scaled) (n : Nat) :
    x.exponent + n ≤ (x.cut n).exponent ∨ (x.cut n).exponent = 0 := by
  induction n generalizing x with
  | zero =>
      rw [cut]
      omega
  | succ n ih =>
      rw [cut]
      split
      · exact .inr rfl
      · have further := ih x.cutDigit
        have next : x.cutDigit.exponent = x.exponent + 1 := rfl
        omega

theorem le_exponent_cutToPrecision (x : Scaled) (n : Nat) :
    x.exponent ≤ (x.cutToPrecision n).exponent := by
  induction n generalizing x with
  | zero => exact Int.le_refl _
  | succ n ih =>
      rw [cutToPrecision]
      split
      · exact Int.le_trans (Int.le_add_one (Int.le_refl _)) (ih x.cutDigit)
      · exact Int.le_refl _

theorem le_exponent_trim (x : Scaled) (n : Nat) : x.exponent ≤ (x.trim n).exponent := by
  induction n generalizing x with
  | zero => exact Int.le_refl _
  | succ n ih =>
      rw [trim]
      split
      · exact Int.le_trans (Int.le_add_one (Int.le_refl _)) (ih _)
      · exact Int.le_refl _

theorem settle_places (x : Scaled) : (-x.settle.exponent).toNat ≤ maxScale := by
  have cut := x.le_exponent_cut (-28 - x.exponent).toNat
  have settled : -28 ≤ x.settle.exponent := by
    calc
      -28 ≤ (x.cut (-28 - x.exponent).toNat).exponent := by omega
      _ ≤ _ := le_exponent_cutToPrecision _ _
      _ ≤ x.settle.exponent := le_exponent_trim _ _
  have limit : maxScale = 28 := rfl
  omega

end Scaled

def ofFloat (x : Float) : Option Decimal :=
  match value : Binary64.ofFloat x with
  | .finite _ 0 _ => some zero
  | .finite negative m e => do
    let start : Scaled :=
      ⟨m, e, Nat.lt_trans (Binary64.significand_lt value) (by decide)⟩
    let x ← (start.halve (-e).toNat).double e.toNat
    let x ← x.grow x.exponent.toNat
    some (withSign negative x.settle.coefficient (-x.settle.exponent).toNat x.settle.small
      x.settle_places)
  | _ => none

end TypedPath.Number.Decimal
