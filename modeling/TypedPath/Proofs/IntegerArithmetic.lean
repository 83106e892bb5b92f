import TypedPath.Eval.Operate
import TypedPath.Proofs.DocumentValues
import TypedPath.Proofs.WholeDecimals

/-! Arithmetic on integers is exact or refused. The way through decimals neither rounds a result nor
wraps it: an operator gives the integer of the mathematical result where that has 64 bits, and a
type error where it has not. -/

namespace TypedPath

open Number

attribute [local instance (high)] instPowNat

theorem Number.int64_eq_some {n : Int} {m : Int64} : int64? n = some m ↔ m.toInt = n := by
  constructor
  · intro found
    unfold int64? at found
    split at found
    · rename_i range
      cases found
      exact Int64.toInt_ofInt_of_le range.1 range.2
    · cases found
  · rintro rfl
    exact int64_toInt m

theorem Number.int64_eq_none {n : Int} : int64? n = none ↔ ∀ m : Int64, m.toInt ≠ n := by
  rw [Option.eq_none_iff_forall_ne_some]
  exact forall_congr' fun m => not_congr int64_eq_some

theorem Number.int64_range {n : Int} :
    (∃ m : Int64, m.toInt = n) ↔ -9223372036854775808 ≤ n ∧ n < 9223372036854775808 := by
  constructor
  · rintro ⟨m, rfl⟩
    exact ⟨m.le_toInt, m.toInt_lt⟩
  · rintro ⟨low, high⟩
    exact ⟨Int64.ofInt n, Int64.toInt_ofInt_of_le low high⟩

theorem Number.toInt_ne_zero {n : Int64} (nonzero : n ≠ 0) : n.toInt ≠ 0 :=
  fun none => nonzero (Int64.toInt_inj.mp none)

/-- A result is exact when it is the integer `n`, or a type error if `n` does not have 64 bits. -/
structure IsExact (n : Int) (result : Except EvalError Value) : Prop where
  given : ∀ m : Int64, m.toInt = n → result = .ok (.integer m)
  refused : (∀ m : Int64, m.toInt ≠ n) → ∃ fault, result = .error (.type fault)

theorem IsExact.fails_iff {n : Int} {result : Except EvalError Value} (exact : IsExact n result) :
    (∃ failure, result = .error failure) ↔ ¬∃ m : Int64, m.toInt = n := by
  constructor
  · rintro ⟨failure, failed⟩ ⟨m, same⟩
    rw [exact.given m same] at failed
    cases failed
  · intro none
    obtain ⟨fault, failed⟩ := exact.refused (not_exists.mp none)
    exact ⟨_, failed⟩

theorem isExact_of_int64 {n : Int} {result : Except EvalError Value}
    (given : ∀ m, int64? n = some m → result = .ok (.integer m))
    (refused : int64? n = none → ∃ fault, result = .error (.type fault)) : IsExact n result :=
  ⟨fun m same => given m (int64_eq_some.mpr same), fun none => refused (int64_eq_none.mpr none)⟩

section Decimals

variable {op : Operator} {a b : Int64}

theorem resultLike_isExact (a : Int64) (result : Decimal) :
    IsExact result.integerPart (resultLike (.integer a) result) := by
  have part : result.toInt64? = int64? result.integerPart := rfl
  unfold resultLike
  rw [part]
  apply isExact_of_int64
  · intro m found
    rw [found]
  · intro none
    rw [none]
    exact ⟨_, rfl⟩

theorem not_by_zero (divisor : op = .divide ∨ op = .modulo → b ≠ 0) :
    ¬((op = .divide ∨ op = .modulo) ∧ (Decimal.ofInt64 b).isZero = true) := by
  rintro ⟨divides, none⟩
  apply divisor divides
  exact Int64.toInt_inj.mp ((Decimal.ofInt64_isWhole b).isZero_iff.mp none)

theorem decimalArithmetic_isExact {n : Int} (divisor : op = .divide ∨ op = .modulo → b ≠ 0)
    (computed : ∃ d, decimalOperation op (.ofInt64 a) (.ofInt64 b) = some d ∧ d.integerPart = n) :
    IsExact n (decimalArithmetic op (.integer a) (.integer b)) := by
  obtain ⟨result, done, rfl⟩ := computed
  simp only [decimalArithmetic, Value.decimal?, if_neg (not_by_zero divisor), done]
  exact resultLike_isExact a result

theorem decimalArithmetic_of_whole {n : Int} (divisor : op = .divide ∨ op = .modulo → b ≠ 0)
    (computed : ∃ d, decimalOperation op (.ofInt64 a) (.ofInt64 b) = some d ∧ d.IsWhole n) :
    IsExact n (decimalArithmetic op (.integer a) (.integer b)) := by
  obtain ⟨result, done, whole⟩ := computed
  exact decimalArithmetic_isExact divisor ⟨result, done, whole.integerPart_eq⟩

theorem decimalArithmetic_refused (divisor : op = .divide ∨ op = .modulo → b ≠ 0)
    (large : decimalOperation op (.ofInt64 a) (.ofInt64 b) = none) :
    ∃ fault, decimalArithmetic op (.integer a) (.integer b) = .error (.type fault) := by
  simp only [decimalArithmetic, Value.decimal?, if_neg (not_by_zero divisor), large]
  exact ⟨_, rfl⟩

theorem decimalArithmetic_byZero (a : Int64) (divides : op = .divide ∨ op = .modulo) :
    decimalArithmetic op (.integer a) (.integer 0) = .error .divisionByZero :=
  if_pos ⟨divides, rfl⟩

theorem sum_isExact (a b : Int64) :
    IsExact (a.toInt + b.toInt) (decimalArithmetic .add (.integer a) (.integer b)) := by
  have left := int64_range.mp ⟨a, rfl⟩
  have right := int64_range.mp ⟨b, rfl⟩
  have fits : (a.toInt + b.toInt).natAbs < Decimal.bound := by
    rw [Decimal.bound]
    omega
  apply decimalArithmetic_of_whole (by simp)
  exact Decimal.add_isWhole (Decimal.ofInt64_isWhole a) (Decimal.ofInt64_isWhole b) fits

theorem difference_isExact (a b : Int64) :
    IsExact (a.toInt - b.toInt) (decimalArithmetic .subtract (.integer a) (.integer b)) := by
  have left := int64_range.mp ⟨a, rfl⟩
  have right := int64_range.mp ⟨b, rfl⟩
  have fits : (a.toInt - b.toInt).natAbs < Decimal.bound := by
    rw [Decimal.bound]
    omega
  apply decimalArithmetic_of_whole (by simp)
  exact Decimal.sub_isWhole (Decimal.ofInt64_isWhole a) (Decimal.ofInt64_isWhole b) fits

/-- A product may exceed all decimals, but then it has more than 64 bits as well. -/
theorem product_isExact (a b : Int64) :
    IsExact (a.toInt * b.toInt) (decimalArithmetic .multiply (.integer a) (.integer b)) := by
  have left := Decimal.ofInt64_isWhole a
  have right := Decimal.ofInt64_isWhole b
  by_cases fits : (a.toInt * b.toInt).natAbs < Decimal.bound
  · exact decimalArithmetic_of_whole (by simp) (Decimal.mul_isWhole left right fits)
  · have large := Nat.not_lt.mp fits
    constructor
    · intro m same
      have small := natAbs_toInt_le m
      rw [same] at small
      exact absurd (Nat.le_trans large small) (by decide)
    · intro _
      exact decimalArithmetic_refused (by simp) (Decimal.mul_eq_none left right large)

theorem quotient_isExact (a : Int64) {b : Int64} (nonzero : b ≠ 0) :
    IsExact (a.toInt.tdiv b.toInt) (decimalArithmetic .divide (.integer a) (.integer b)) := by
  apply decimalArithmetic_isExact fun _ => nonzero
  exact Decimal.div_integerPart (Decimal.ofInt64_isWhole a) (Decimal.ofInt64_isWhole b)
    (toInt_ne_zero nonzero) (natAbs_toInt_le a) (natAbs_toInt_le b)

theorem remainder_isExact (a : Int64) {b : Int64} (nonzero : b ≠ 0) :
    IsExact (a.toInt.tmod b.toInt) (decimalArithmetic .modulo (.integer a) (.integer b)) := by
  apply decimalArithmetic_of_whole fun _ => nonzero
  exact Decimal.rem_isWhole (Decimal.ofInt64_isWhole a) (Decimal.ofInt64_isWhole b)
    (toInt_ne_zero nonzero)

end Decimals

section Powers

theorem pow_of_cube {x : Int} (cube : x * x * x = x) (k : Nat) :
    x ^ k = if k = 0 then 1 else if k % 2 = 1 then x else x * x := by
  induction k with
  | zero => exact Int.pow_zero x
  | succ k ih =>
      rw [Int.pow_succ, ih, if_neg (Nat.succ_ne_zero k)]
      by_cases first : k = 0
      · simp [first]
      · by_cases odd : k % 2 = 1
        · have even : ¬(k + 1) % 2 = 1 := by omega
          simp only [if_neg first, if_pos odd, if_neg even]
        · have oddNext : (k + 1) % 2 = 1 := by omega
          simp only [if_neg first, if_neg odd, if_pos oddNext, cube]

theorem two_pow_le_natAbs {x : Int} (large : 2 ≤ x.natAbs) (k : Nat) :
    2 ^ k ≤ (x ^ k).natAbs := by
  induction k with
  | zero => simp
  | succ k ih =>
      rw [Int.pow_succ, Int.natAbs_mul, Nat.pow_succ]
      exact Nat.mul_le_mul ih large

theorem eq_of_natAbs_le_one {n : Int64} (small : n.toInt.natAbs ≤ 1) :
    n = -1 ∨ n = 0 ∨ n = 1 := by
  have range : n.toInt = -1 ∨ n.toInt = 0 ∨ n.toInt = 1 := by omega
  rcases range with same | same | same
  · exact .inl (Int64.toInt_inj.mp same)
  · exact .inr (.inl (Int64.toInt_inj.mp same))
  · exact .inr (.inr (Int64.toInt_inj.mp same))

theorem integerPower_eq (base : Int64) (exponent : Nat) :
    integerPower? base exponent = int64? (base.toInt ^ exponent) := by
  unfold integerPower?
  split
  · rename_i small
    have cube : base.toInt * base.toInt * base.toInt = base.toInt := by
      rcases eq_of_natAbs_le_one small with rfl | rfl | rfl <;> decide
    have square : (base * base).toInt = base.toInt * base.toInt := by
      rcases eq_of_natAbs_le_one small with rfl | rfl | rfl <;> decide
    symm
    rw [int64_eq_some, pow_of_cube cube]
    split
    · rfl
    · split
      · rfl
      · exact square
  · split
    · rename_i large long
      symm
      rw [int64_eq_none]
      intro m same
      have small := natAbs_toInt_le m
      rw [same] at small
      have grows := two_pow_le_natAbs (Nat.not_le.mp large) exponent
      have longer : 2 ^ (64 : Nat) ≤ 2 ^ exponent := Nat.pow_le_pow_right (by decide) long
      exact absurd (Nat.le_trans longer (Nat.le_trans grows small)) (by decide)
    · rfl

theorem power_isExact (a : Int64) {b : Int64} (nonnegative : 0 ≤ b)
    (short : b.toInt < 2 ^ (32 : Nat)) :
    IsExact (a.toInt ^ b.toInt.toNat) (power (.integer a) (.integer b)) := by
  simp only [power, if_pos nonnegative, if_pos short, integerPower_eq]
  apply isExact_of_int64
  · intro m found
    rw [found]
  · intro none
    rw [none]
    exact ⟨_, rfl⟩

end Powers

theorem quotient_misfits_iff (a : Int64) {b : Int64} (nonzero : b ≠ 0) :
    (¬∃ m : Int64, m.toInt = a.toInt.tdiv b.toInt) ↔ a = Int64.minValue ∧ b = -1 := by
  have least : a = Int64.minValue ↔ a.toInt = -9223372036854775808 := Int64.toInt_inj.symm
  have minusOne : b = -1 ↔ b.toInt = -1 := Int64.toInt_inj.symm
  have divisor := toInt_ne_zero nonzero
  have left := int64_range.mp ⟨a, rfl⟩
  rw [int64_range, least, minusOne]
  generalize a.toInt = m at left ⊢
  generalize b.toInt = n at divisor ⊢
  have magnitude : (m.tdiv n).natAbs = m.natAbs / n.natAbs := Int.natAbs_tdiv m n
  by_cases unit : n.natAbs = 1
  · have units : n = 1 ∨ n = -1 := by omega
    rcases units with rfl | rfl
    · rw [Int.tdiv_one]
      omega
    · rw [Int.tdiv_neg, Int.tdiv_one]
      omega
  · have half : m.natAbs / n.natAbs ≤ m.natAbs / 2 := Nat.div_le_div_left (by omega) (by decide)
    omega

theorem remainder_fits (a : Int64) {b : Int64} (nonzero : b ≠ 0) :
    ∃ m : Int64, m.toInt = a.toInt.tmod b.toInt := by
  have divisor := toInt_ne_zero nonzero
  have right := int64_range.mp ⟨b, rfl⟩
  have magnitude : (a.toInt.tmod b.toInt).natAbs = a.toInt.natAbs % b.toInt.natAbs :=
    Int.natAbs_tmod _ _
  have smaller := Nat.mod_lt a.toInt.natAbs (Int.natAbs_pos.mpr divisor)
  rw [int64_range]
  omega

/-- Arithmetic on integers is exact or refused. Sums, differences, products, quotients truncated
toward zero, remainders with the sign of the left operand, powers with an exponent below `2 ^ 32`
and steps by one are the mathematical results where these have 64 bits, and type errors where they
have not. Division by zero is an error of its own; apart from it the quotient of the least integer
by -1 is the only one that is refused, and no remainder is. -/
theorem integer_arithmetic_is_exact (listing : Listing) (a b : Int64) :
    IsExact (a.toInt + b.toInt) (Operator.add.operate listing (.integer a) (.integer b)) ∧
      IsExact (a.toInt - b.toInt) (Operator.subtract.operate listing (.integer a) (.integer b)) ∧
      IsExact (a.toInt * b.toInt) (Operator.multiply.operate listing (.integer a) (.integer b)) ∧
      (b = 0 →
        Operator.divide.operate listing (.integer a) (.integer b) = .error .divisionByZero ∧
        Operator.modulo.operate listing (.integer a) (.integer b) = .error .divisionByZero) ∧
      (b ≠ 0 →
        IsExact (a.toInt.tdiv b.toInt) (Operator.divide.operate listing (.integer a) (.integer b)) ∧
        IsExact (a.toInt.tmod b.toInt) (Operator.modulo.operate listing (.integer a) (.integer b)) ∧
        ((∃ failure, Operator.divide.operate listing (.integer a) (.integer b) = .error failure) ↔
          a = Int64.minValue ∧ b = -1) ∧
        ∃ m, Operator.modulo.operate listing (.integer a) (.integer b) = .ok (.integer m)) ∧
      (0 ≤ b → b.toInt < 2 ^ (32 : Nat) →
        IsExact (a.toInt ^ b.toInt.toNat)
          (Operator.power.operate listing (.integer a) (.integer b))) ∧
      ∀ right, IsExact (a.toInt + 1) (Operator.increase.operate listing (.integer a) right) ∧
        IsExact (a.toInt - 1) (Operator.decrease.operate listing (.integer a) right) := by
  refine ⟨sum_isExact a b, difference_isExact a b, product_isExact a b, ?_, ?_, power_isExact a,
    fun right => ⟨sum_isExact a 1, sum_isExact a (-1)⟩⟩
  · rintro rfl
    exact ⟨decimalArithmetic_byZero a (.inl rfl), decimalArithmetic_byZero a (.inr rfl)⟩
  · intro nonzero
    have quotient := quotient_isExact a nonzero
    have remainder := remainder_isExact a nonzero
    obtain ⟨m, same⟩ := remainder_fits a nonzero
    exact ⟨quotient, remainder, quotient.fails_iff.trans (quotient_misfits_iff a nonzero), m,
      remainder.given m same⟩

theorem integer_arithmetic_is_exact_atTheEnds :
    Operator.divide.operate .asGiven (.integer 9223372036854775806) (.integer 9223372036854775807) =
        .ok (.integer 0) ∧
      Operator.power.operate .asGiven (.integer (-2)) (.integer 63) =
        .ok (.integer Int64.minValue) ∧
      ∃ failure, Operator.divide.operate .asGiven (.integer Int64.minValue) (.integer (-1)) =
        .error failure := by
  have quotient := ((integer_arithmetic_is_exact .asGiven 9223372036854775806
    9223372036854775807).2.2.2.2.1 (by decide)).1
  have power := (integer_arithmetic_is_exact .asGiven (-2) 63).2.2.2.2.2.1 (by decide) (by decide)
  have misfit := ((integer_arithmetic_is_exact .asGiven Int64.minValue
    (-1)).2.2.2.2.1 (by decide)).2.2.1
  exact ⟨quotient.given 0 (by decide), power.given Int64.minValue (by decide),
    misfit.mpr ⟨rfl, rfl⟩⟩

end TypedPath
