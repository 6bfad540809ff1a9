import CallPolicy.Number.Binary64
import Mathlib.Algebra.Order.Field.Power
import Mathlib.Algebra.Order.WithTop.Untop0
import Mathlib.Data.Rat.Cast.Order
import Mathlib.Tactic.FieldSimp
import Mathlib.Tactic.Linarith
import Mathlib.Tactic.NormNum
import Mathlib.Tactic.Positivity
import Mathlib.Tactic.Ring

/-! What numbers stand for, and rounding to integers.

A double stands for a rational number or for an infinity. The integer that a quotient is rounded to is pinned
by two facts, that it is nearest and that ties go to the even one, so rounding keeps the order.
-/

set_option autoImplicit false

namespace CallPolicy.Binary64

/-! ### Rounding -/

/-- The integer nearest to a number, the even one of two that are equally near. -/
structure RoundsTo (x : ℚ) (n : ℕ) : Prop where
  nearest : |x - n| ≤ 1 / 2
  even : |x - n| = 1 / 2 → n % 2 = 0

/-- Twice the numerator is at most the denominator away from twice the product, and a tie is even. -/
theorem roundQuotient_near (num : ℕ) {den : ℕ} (positive : 0 < den) :
    2 * (den * roundQuotient num den) ≤ 2 * num + den ∧ 2 * num ≤ 2 * (den * roundQuotient num den) + den ∧
      (2 * num = 2 * (den * roundQuotient num den) + den ∨ 2 * num + den = 2 * (den * roundQuotient num den) →
        roundQuotient num den % 2 = 0) := by
  have parts := Nat.div_add_mod num den
  have small := Nat.mod_lt num positive
  unfold roundQuotient
  generalize num / den = quotient at parts ⊢
  generalize num % den = rest at parts small ⊢
  dsimp only
  split
  · next up =>
    have up : den < 2 * rest ∨ 2 * rest = den ∧ quotient % 2 = 1 := by simpa using up
    rw [Nat.mul_succ]
    omega
  · next down =>
    have down : 2 * rest ≤ den ∧ (2 * rest = den → quotient % 2 = 0) := by simpa using down
    omega

theorem roundsTo_roundQuotient (num : ℕ) {den : ℕ} (positive : 0 < den) :
    RoundsTo ((num : ℚ) / den) (roundQuotient num den) := by
  obtain ⟨above, below, tie⟩ := roundQuotient_near num positive
  generalize roundQuotient num den = n at above below tie ⊢
  have denPositive : (0 : ℚ) < den := by exact_mod_cast positive
  have scaled : (num : ℚ) / den - n = (2 * num - 2 * (den * n)) / (2 * den) := by field_simp
  have above : (2 * (den * n) : ℚ) ≤ 2 * num + den := by exact_mod_cast above
  have below : (2 * num : ℚ) ≤ 2 * (den * n) + den := by exact_mod_cast below
  constructor <;> rw [scaled]
  · rw [abs_le, le_div_iff₀ (by positivity), div_le_iff₀ (by positivity)]
    constructor <;> linarith
  · intro half
    apply tie
    rcases eq_or_eq_neg_of_abs_eq half with up | down
    · left
      rw [div_eq_iff (by positivity)] at up
      have up : (2 * num : ℚ) = 2 * (den * n) + den := by linarith
      exact_mod_cast up
    · right
      rw [div_eq_iff (by positivity)] at down
      have down : (2 * num + den : ℚ) = 2 * (den * n) := by linarith
      exact_mod_cast down

/-- Of two numbers in order the roundings are in order. -/
theorem RoundsTo.mono {x y : ℚ} {m n : ℕ} (first : RoundsTo x m) (second : RoundsTo y n) (inOrder : x ≤ y) : m ≤ n := by
  by_contra less
  have less : n + 1 ≤ m := by omega
  have apart : (n : ℚ) + 1 ≤ m := by exact_mod_cast less
  have left := abs_le.1 first.nearest
  have right := abs_le.1 second.nearest
  -- Then both are the same tie, between two neighbours of which just one is even.
  have evenFirst := first.even (by rw [abs_of_nonpos (by linarith)]; linarith)
  have evenSecond := second.even (by rw [abs_of_nonneg (by linarith)]; linarith)
  have neighbours : (m : ℚ) = n + 1 := by linarith
  have neighbours : m = n + 1 := by exact_mod_cast neighbours
  omega

theorem RoundsTo.le_add_half {x : ℚ} {n : ℕ} (rounds : RoundsTo x n) : (n : ℚ) ≤ x + 1 / 2 := by
  have near := abs_le.1 rounds.nearest
  linarith

/-! ### Exact values -/

/-- The magnitude of a finite number. -/
def size (x : Binary64) : ℚ :=
  x.significand * 2 ^ x.exponent

/-- What a number stands for, the infinities being below and above all others; `none` for what is not a number. -/
def value? (x : Binary64) : Option (WithBot (WithTop ℚ)) :=
  if x.isNaN then none
  else if x.isInfinite then some (if x.negative then ⊥ else ((⊤ : WithTop ℚ) : WithBot (WithTop ℚ)))
  else some ((if x.negative then -x.size else x.size : ℚ) : WithTop ℚ)

theorem ratio_positive (x : Binary64) : 0 < x.ratio.2 := by
  unfold ratio
  split
  · exact Nat.one_pos
  · exact Nat.two_pow_pos _

/-- The fraction is the magnitude. -/
theorem ratio_eq_size (x : Binary64) : (x.ratio.1 : ℚ) / x.ratio.2 = x.size := by
  unfold ratio size
  split
  · next power known =>
    rw [known]
    simp
  · next power known =>
    rw [known, zpow_negSucc]
    simp [div_eq_mul_inv]

theorem size_nonneg (x : Binary64) : 0 ≤ x.size := by
  unfold size
  positivity

theorem significand_eq_zero_iff (x : Binary64) : x.significand = 0 ↔ x.isZero = true := by
  have parts := Nat.div_add_mod x.magnitude exponentUnit
  rw [significand, isZero, decide_eq_true_iff]
  split
  · next subnormal =>
    rw [biasedExponent] at subnormal
    rw [fraction]
    rw [subnormal] at parts
    omega
  · next normal =>
    have unit : 0 < exponentUnit := by decide
    constructor
    · intro none
      omega
    · intro zero
      rw [biasedExponent, zero] at normal
      simp at normal

theorem size_pos_iff (x : Binary64) : 0 < x.size ↔ x.isZero = false := by
  rw [← Bool.not_eq_true, ← significand_eq_zero_iff, size, mul_pos_iff_of_pos_right (by positivity), Nat.cast_pos,
    Nat.pos_iff_ne_zero]

theorem significand_lt (x : Binary64) : x.significand < 2 ^ 53 := by
  have small : x.fraction < exponentUnit := Nat.mod_lt _ (by decide)
  have unit : exponentUnit = 2 ^ 52 := by decide
  rw [significand]
  split <;> omega

/-- Between the doubles there are gaps of more than one at high powers of two. -/
theorem size_le_of_lt {x : Binary64} {power : ℕ} (large : 53 ≤ power) (less : x.size < 2 ^ power) :
    x.size ≤ 2 ^ power - 1 := by
  unfold size at less ⊢
  cases known : x.exponent with
  | ofNat shift =>
    -- The number is an integer.
    rw [known] at less
    simp only [Int.ofNat_eq_natCast, zpow_natCast] at less ⊢
    have less : x.significand * 2 ^ shift < 2 ^ power := by exact_mod_cast less
    have less : x.significand * 2 ^ shift + 1 ≤ 2 ^ power := less
    have less : ((x.significand : ℚ) * 2 ^ shift + 1) ≤ 2 ^ power := by exact_mod_cast less
    linarith
  | negSucc shift =>
    have small : (x.significand : ℚ) + 1 ≤ 2 ^ 53 := by exact_mod_cast x.significand_lt
    have powers : (2 : ℚ) ^ 53 ≤ 2 ^ power := pow_le_pow_right₀ (by norm_num) large
    have shrunk : (x.significand : ℚ) * 2 ^ (Int.negSucc shift) ≤ x.significand := by
      refine mul_le_of_le_one_right (Nat.cast_nonneg _) ?_
      rw [zpow_negSucc]
      exact inv_le_one_of_one_le₀ (one_le_pow₀ (by norm_num))
    linarith

end CallPolicy.Binary64
