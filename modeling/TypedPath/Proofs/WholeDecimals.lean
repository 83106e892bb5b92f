import TypedPath.Number.Decimal

/-! Arithmetic of whole decimals. Sums, products and remainders of whole decimals are exact as long
as they fit. A quotient is rounded, but with so many places that it never reaches the next integer:
its integer part is that of the exact quotient. -/

namespace TypedPath.Number

attribute [local instance (high)] instPowNat

@[simp] theorem signed_zero (negative : Bool) : signed negative 0 = 0 := by
  cases negative <;> rfl

@[simp] theorem natAbs_signed (negative : Bool) (magnitude : Nat) :
    (signed negative magnitude).natAbs = magnitude := by
  cases negative <;> simp [signed]

theorem signed_natAbs (n : Int) : signed (n < 0) n.natAbs = n := by
  by_cases sign : n < 0
  · simp only [signed, sign, decide_true, if_true]
    omega
  · simp only [signed, sign, decide_false, Bool.false_eq_true, if_false]
    omega

theorem signed_not (negative : Bool) (magnitude : Nat) :
    signed (!negative) magnitude = -signed negative magnitude := by
  cases negative <;> simp [signed]

theorem signed_mul (s t : Bool) (m n : Nat) :
    signed s m * signed t n = signed (s != t) (m * n) := by
  cases s <;> cases t
  · exact (Int.natCast_mul m n).symm
  · exact Int.mul_neg _ _
  · exact Int.neg_mul _ _
  · exact Int.neg_mul_neg _ _

theorem signed_tdiv (s t : Bool) (m n : Nat) :
    (signed s m).tdiv (signed t n) = signed (s != t) (m / n) := by
  cases s <;> cases t <;> simp [signed, Int.neg_tdiv, Int.tdiv_neg]

theorem signed_tmod (s t : Bool) (m n : Nat) :
    (signed s m).tmod (signed t n) = signed s (m % n) := by
  cases s <;> cases t <;>
    simp only [signed, if_true, Bool.false_eq_true, if_false, Int.ofNat_tmod, Int.neg_tmod,
      Int.tmod_neg]

namespace Decimal

def integerPart (d : Decimal) : Int := signed d.negative (d.coefficient / 10 ^ d.scale)

structure IsWhole (d : Decimal) (n : Int) : Prop where
  scale : d.scale = 0
  value : signed d.negative d.coefficient = n

theorem IsWhole.integerPart_eq {d : Decimal} {n : Int} (whole : d.IsWhole n) :
    d.integerPart = n := by
  rw [integerPart, whole.scale, ← whole.value, Nat.pow_zero, Nat.div_one]

theorem IsWhole.coefficient_eq {d : Decimal} {n : Int} (whole : d.IsWhole n) :
    d.coefficient = n.natAbs := by
  rw [← whole.value, natAbs_signed]

theorem IsWhole.isZero_iff {d : Decimal} {n : Int} (whole : d.IsWhole n) :
    d.isZero = true ↔ n = 0 := by
  rw [isZero, beq_iff_eq, whole.coefficient_eq, Int.natAbs_eq_zero]

section Sign

variable (negative : Bool) {magnitude scale : Nat} (small : magnitude < bound)
  (places : scale ≤ maxScale)

theorem signed_withSign (part : Nat) (zero : magnitude = 0 → part = 0) :
    signed (withSign negative magnitude scale small places).negative part =
      signed negative part := by
  by_cases none : magnitude = 0
  · simp [zero none]
  · have present : (magnitude != 0) = true := bne_iff_ne.mpr none
    simp only [withSign, present, Bool.and_true]

theorem withSign_isWhole (whole : scale = 0) :
    (withSign negative magnitude scale small places).IsWhole (signed negative magnitude) :=
  ⟨whole, signed_withSign negative small places magnitude id⟩

theorem integerPart_withSign :
    (withSign negative magnitude scale small places).integerPart =
      signed negative (magnitude / 10 ^ scale) := by
  apply signed_withSign
  rintro rfl
  exact Nat.zero_div _

end Sign

theorem ofInt64_isWhole (n : Int64) : (ofInt64 n).IsWhole n.toInt := by
  have whole : (ofInt64 n).IsWhole (signed (n.toInt < 0) n.toInt.natAbs) :=
    withSign_isWhole _ _ _ rfl
  rwa [signed_natAbs] at whole

theorem zero_isWhole : zero.IsWhole 0 := ⟨rfl, rfl⟩

theorem IsWhole.negate {d : Decimal} {n : Int} (whole : d.IsWhole n) : d.negate.IsWhole (-n) := by
  rw [← whole.value, ← signed_not]
  exact withSign_isWhole _ d.small d.places whole.scale

theorem fit_whole (negative : Bool) (magnitude : Nat) :
    fit negative magnitude 0 =
      if small : magnitude < bound then
        some (withSign negative magnitude 0 small (Nat.zero_le _))
      else none := by
  have exact : divideHalfEven magnitude (10 ^ (0 : Nat)) = magnitude := by
    simp [divideHalfEven, Nat.mod_one]
  simp only [fit, Nat.zero_min, shrink, exact]

section Whole

variable {a b : Decimal} {m n : Int}

theorem add_isWhole (left : a.IsWhole m) (right : b.IsWhole n) (fits : (m + n).natAbs < bound) :
    ∃ d, a.add b = some d ∧ d.IsWhole (m + n) := by
  unfold add
  split
  · rename_i none
    rw [left.isZero_iff.mp none, Int.zero_add]
    exact ⟨b, rfl, right⟩
  · split
    · rename_i none
      rw [right.isZero_iff.mp none, Int.add_zero]
      exact ⟨a, rfl, left⟩
    · have sum : a.atScale 0 + b.atScale 0 = m + n := by
        simp [atScale, left.value, right.value]
      have whole := withSign_isWhole (m + n < 0) fits (Nat.zero_le _) rfl
      rw [signed_natAbs] at whole
      simp only [left.scale, right.scale, Nat.max_self, sum, fit_whole, dif_pos fits]
      exact ⟨_, rfl, whole⟩

theorem sub_isWhole (left : a.IsWhole m) (right : b.IsWhole n) (fits : (m - n).natAbs < bound) :
    ∃ d, a.sub b = some d ∧ d.IsWhole (m - n) := by
  rw [Int.sub_eq_add_neg] at fits ⊢
  exact add_isWhole left right.negate fits

theorem mul_isWhole (left : a.IsWhole m) (right : b.IsWhole n) (fits : (m * n).natAbs < bound) :
    ∃ d, a.mul b = some d ∧ d.IsWhole (m * n) := by
  unfold mul
  split
  · rename_i none
    have product : m * n = 0 := by
      rw [Bool.or_eq_true, left.isZero_iff, right.isZero_iff] at none
      exact Int.mul_eq_zero.mpr none
    rw [product]
    exact ⟨zero, rfl, zero_isWhole⟩
  · rw [Int.natAbs_mul, ← left.coefficient_eq, ← right.coefficient_eq] at fits
    rw [left.scale, right.scale, fit_whole, dif_pos fits, ← left.value, ← right.value, signed_mul]
    exact ⟨_, rfl, withSign_isWhole _ _ _ rfl⟩

theorem mul_eq_none (left : a.IsWhole m) (right : b.IsWhole n) (large : bound ≤ (m * n).natAbs) :
    a.mul b = none := by
  have nonzero : (a.isZero || b.isZero) = false := by
    rw [Bool.eq_false_iff]
    intro none
    rw [Bool.or_eq_true, left.isZero_iff, right.isZero_iff] at none
    rw [Int.mul_eq_zero.mpr none] at large
    exact absurd large (by decide)
  rw [Int.natAbs_mul, ← left.coefficient_eq, ← right.coefficient_eq] at large
  rw [mul, nonzero, left.scale, right.scale, fit_whole, dif_neg (Nat.not_lt.mpr large)]
  rfl

theorem rem_isWhole (left : a.IsWhole m) (right : b.IsWhole n) (nonzero : n ≠ 0) :
    ∃ d, a.rem b = some d ∧ d.IsWhole (m.tmod n) := by
  have remainder : m.tmod n = signed a.negative (a.coefficient % b.coefficient) := by
    rw [← left.value, ← right.value, signed_tmod]
  have level : max a.scale b.scale = 0 := by rw [left.scale, right.scale, Nat.max_self]
  have divisor : b.isZero = false := Bool.eq_false_iff.mpr (mt right.isZero_iff.mp nonzero)
  have leftAligned : a.coefficient * 10 ^ (max a.scale b.scale - a.scale) = a.coefficient := by
    rw [level, Nat.zero_sub, Nat.pow_zero, Nat.mul_one]
  have rightAligned : b.coefficient * 10 ^ (max a.scale b.scale - b.scale) = b.coefficient := by
    rw [level, Nat.zero_sub, Nat.pow_zero, Nat.mul_one]
  rw [remainder, rem, dif_pos divisor]
  simp only [leftAligned, rightAligned]
  split
  · rename_i smaller
    exact ⟨a, rfl, left.scale, by rw [Nat.mod_eq_of_lt smaller]⟩
  · split
    · rename_i equal
      rw [equal, Nat.mod_self, signed_zero]
      exact ⟨zero, rfl, zero_isWhole⟩
    · exact ⟨_, rfl, withSign_isWhole _ _ _ level⟩

end Whole

theorem divideHalfEven_cases (n d : Nat) :
    (divideHalfEven n d = n / d ∧ 2 * (n % d) ≤ d) ∨
      (divideHalfEven n d = n / d + 1 ∧ d ≤ 2 * (n % d)) := by
  unfold divideHalfEven
  dsimp only
  split
  · exact .inl ⟨rfl, by omega⟩
  · split
    · exact .inr ⟨rfl, by omega⟩
    · split
      · exact .inl ⟨rfl, by omega⟩
      · exact .inr ⟨rfl, by omega⟩

theorem le_divideHalfEven (n d : Nat) : n / d ≤ divideHalfEven n d := by
  rcases divideHalfEven_cases n d with ⟨rounded, _⟩ | ⟨rounded, _⟩ <;> omega

theorem divideHalfEven_mul_le (n d : Nat) : 2 * (divideHalfEven n d * d) ≤ 2 * n + d := by
  have exact : n / d * d + n % d = n := Nat.div_add_mod' n d
  have above : (n / d + 1) * d = n / d * d + d := Nat.succ_mul _ _
  rcases divideHalfEven_cases n d with ⟨rounded, _⟩ | ⟨rounded, _⟩ <;> rw [rounded] <;> omega

/-- Rounding a quotient to steps of less than `2 / d` does not reach the next integer: the exact
quotient by `d` is at least `1 / d` below it. -/
theorem divideHalfEven_floor (n d unit : Nat) (positive : 0 < d) (fine : d < 2 * unit) :
    divideHalfEven (n * unit) d / unit = n / d := by
  apply Nat.div_eq_of_lt_le
  · calc
      n / d * unit ≤ n * unit / d := by
        rw [Nat.le_div_iff_mul_le positive, Nat.mul_right_comm]
        exact Nat.mul_le_mul_right unit (Nat.div_mul_le_self n d)
      _ ≤ divideHalfEven (n * unit) d := le_divideHalfEven _ _
  · have near := divideHalfEven_mul_le (n * unit) d
    have next : n + 1 ≤ d * (n / d + 1) := Nat.lt_mul_div_succ n positive
    have steps : (n + 1) * unit ≤ (n / d + 1) * unit * d := by
      rw [Nat.mul_right_comm, Nat.mul_comm (n / d + 1) d]
      exact Nat.mul_le_mul_right unit next
    rw [Nat.succ_mul] at steps
    have below : divideHalfEven (n * unit) d * d < (n / d + 1) * unit * d := by omega
    exact Nat.lt_of_mul_lt_mul_right below

theorem stripZeros_floor (n scale : Nat) :
    (stripZeros n scale).1 / 10 ^ (stripZeros n scale).2 = n / 10 ^ scale := by
  induction scale generalizing n with
  | zero => rfl
  | succ scale ih =>
      rw [stripZeros]
      split
      · rw [ih, Nat.div_div_eq_div_mul, Nat.pow_succ, Nat.mul_comm]
      · rfl

theorem integerPart_stripped (d : Decimal) : d.stripped.integerPart = d.integerPart := by
  rw [stripped, integerPart_withSign, stripZeros_floor, integerPart]

theorem divisor_lt_of_large {n d unit : Nat} (positive : 0 < d) (small : n ≤ 2 ^ (63 : Nat))
    (large : bound ≤ divideHalfEven (n * (unit * 10)) d) : d < 2 * unit := by
  have near := divideHalfEven_mul_le (n * (unit * 10)) d
  have dividend : n * (unit * 10) ≤ 9223372036854775808 * (unit * 10) :=
    Nat.mul_le_mul_right _ small
  have exceeds : 79228162514264337593543950336 * d ≤ divideHalfEven (n * (unit * 10)) d * d :=
    Nat.mul_le_mul_right d large
  omega

/-- A quotient of integers of 63 bits is rounded at a place where it keeps its integer part. -/
theorem quotient_floor (negative : Bool) {n d target : Nat} (positive : 0 < d)
    (small : n ≤ 2 ^ (63 : Nat)) (places : target ≤ maxScale) (fine : d < 2 * 10 ^ target) :
    ∃ q, quotient negative n 0 d 0 target places = some q ∧
      q.integerPart = signed negative (n / d) := by
  have divisor : d * 10 ^ (0 : Nat) = d := Nat.mul_one d
  -- the places are tried from `target` downwards, and each one that is tried is fine enough for the
  -- divisor; at the last one the divisor is 1
  induction target with
  | zero =>
      have floor := divideHalfEven_floor n d 1 positive fine
      rw [Nat.div_one] at floor
      have fits : n / d < bound :=
        Nat.lt_of_le_of_lt (Nat.le_trans (Nat.div_le_self n d) small) (by decide)
      simp only [quotient, divisor, Nat.pow_zero, floor, dif_pos fits]
      refine ⟨_, rfl, ?_⟩
      rw [integerPart_withSign, Nat.pow_zero, Nat.div_one]
  | succ target ih =>
      simp only [quotient, divisor, Nat.zero_add]
      split
      · refine ⟨_, rfl, ?_⟩
        rw [integerPart_withSign, divideHalfEven_floor n d _ positive fine]
      · rename_i large
        exact ih _ (divisor_lt_of_large positive small (Nat.not_lt.mp large))

/-- The quotient of integers of 64 bits has the integer part of the exact quotient. -/
theorem div_integerPart {a b : Decimal} {m n : Int} (left : a.IsWhole m) (right : b.IsWhole n)
    (nonzero : n ≠ 0) (leftSmall : m.natAbs ≤ 2 ^ (63 : Nat))
    (rightSmall : n.natAbs ≤ 2 ^ (63 : Nat)) :
    ∃ d, a.div b = some d ∧ d.integerPart = m.tdiv n := by
  have exact : m.tdiv n = signed (a.negative != b.negative) (a.coefficient / b.coefficient) := by
    rw [← left.value, ← right.value, signed_tdiv]
  have positive : 0 < b.coefficient := by
    rw [right.coefficient_eq]
    exact Int.natAbs_pos.mpr nonzero
  unfold div
  dsimp only
  split
  · rename_i none
    rw [left.isZero_iff.mp none, Int.zero_tdiv]
    exact ⟨zero, rfl, zero_isWhole.integerPart_eq⟩
  · split
    · have level : b.scale ≤ a.scale := Nat.le_of_eq (right.scale.trans left.scale.symm)
      have whole : a.scale - b.scale = 0 := by rw [left.scale, Nat.zero_sub]
      rw [if_pos level, exact]
      exact ⟨_, rfl, (withSign_isWhole _ _ _ whole).integerPart_eq⟩
    · have fine : b.coefficient < 2 * 10 ^ maxScale := by
        rw [right.coefficient_eq]
        exact Nat.lt_of_le_of_lt rightSmall (by decide)
      rw [← left.coefficient_eq] at leftSmall
      obtain ⟨q, found, floor⟩ := quotient_floor (a.negative != b.negative) positive leftSmall
        (Nat.le_refl maxScale) fine
      rw [left.scale, right.scale, found, exact, ← floor]
      exact ⟨_, rfl, integerPart_stripped q⟩

end Decimal

end TypedPath.Number
