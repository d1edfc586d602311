import Mathlib.Algebra.Order.Round
import Mathlib.Data.Int.Log
import Mathlib.Data.Rat.Floor
import Mathlib.Tactic.Linarith
import Mathlib.Tactic.Positivity

/-!
# Rounding to significands of so many bits

A rational is rounded to the nearest multiple of the spacing at its magnitude, and to the even one of
two that are equally near. The exponent is not bounded.
-/

namespace Rounding

/-- The nearest whole number, and the even one of two. -/
def nearest (q : ℚ) : ℤ :=
  if q - ⌊q⌋ < 1 / 2 then ⌊q⌋
  else if 1 / 2 < q - ⌊q⌋ then ⌊q⌋ + 1
  else if ⌊q⌋ % 2 = 0 then ⌊q⌋ else ⌊q⌋ + 1

/-- The distance of neighbours with `bits` bits around `q`. -/
def spacing (bits : ℕ) (q : ℚ) : ℚ := 2 ^ (Int.log 2 |q| + 1 - bits)

def round (bits : ℕ) (q : ℚ) : ℚ := nearest (q / spacing bits q) * spacing bits q

/-! ### The nearest whole number -/

theorem nearest_error (q : ℚ) : |(nearest q : ℚ) - q| ≤ 1 / 2 := by
  have below := Int.floor_le q
  have above := Int.lt_floor_add_one q
  rw [abs_le]
  unfold nearest
  split_ifs with less more even
  · constructor <;> linarith
  · push_cast
    constructor <;> linarith
  · constructor <;> linarith
  · push_cast
    constructor <;> linarith

/-- No whole number lies between a number and the nearest one. -/
theorem le_nearest {k : ℤ} {q : ℚ} (le : k ≤ q) : k ≤ nearest q := by
  have floor := Int.le_floor.mpr le
  unfold nearest
  split_ifs <;> omega

theorem nearest_intCast (k : ℤ) : nearest k = k := by
  simp [nearest]

/-! ### The spacing -/

variable {bits : ℕ} {q : ℚ}

theorem spacing_pos : 0 < spacing bits q := zpow_pos (by decide) _

/-- The significand has all its bits. -/
theorem spacing_le (nonzero : q ≠ 0) : spacing bits q * 2 ^ bits ≤ 2 * |q| := by
  have size := Int.zpow_log_le_self (b := 2) (r := |q|) (by decide) (abs_pos.mpr nonzero)
  have split : spacing bits q * 2 ^ bits = 2 * (2 : ℚ) ^ Int.log 2 |q| := by
    rw [spacing, ← zpow_natCast, ← zpow_add₀ (by decide), sub_add_cancel, zpow_add_one₀ (by decide), mul_comm]
  rw [split]
  push_cast at size
  linarith

/-! ### The rounding -/

theorem round_error (bits : ℕ) (q : ℚ) : |round bits q - q| ≤ spacing bits q / 2 := by
  have positive : 0 < spacing bits q := spacing_pos
  have whole : round bits q - q = (nearest (q / spacing bits q) - q / spacing bits q) * spacing bits q := by
    rw [sub_mul, div_mul_cancel₀ _ positive.ne', round]
  rw [whole, abs_mul, abs_of_pos positive]
  have error := mul_le_mul_of_nonneg_right (nearest_error (q / spacing bits q)) positive.le
  linarith

theorem round_zero (bits : ℕ) : round bits 0 = 0 := by
  have none : nearest 0 = 0 := nearest_intCast 0
  rw [round, zero_div, none, Int.cast_zero, zero_mul]

theorem round_relative (bits : ℕ) (q : ℚ) : |round bits q - q| ≤ |q| / 2 ^ bits := by
  by_cases zero : q = 0
  · rw [zero, round_zero]
    simp
  · have error := round_error bits q
    have size : spacing bits q * 2 ^ bits ≤ 2 * |q| := spacing_le zero
    rw [le_div_iff₀ (by positivity)]
    have scaled := mul_le_mul_of_nonneg_right error (show (0 : ℚ) ≤ 2 ^ bits by positivity)
    linarith

theorem round_nonneg (nonneg : 0 ≤ q) : 0 ≤ round bits q := by
  have positive : 0 < spacing bits q := spacing_pos
  have whole : (0 : ℤ) ≤ nearest (q / spacing bits q) := le_nearest (by push_cast; positivity)
  exact mul_nonneg (by exact_mod_cast whole) positive.le

/-- Below the least number with too many bits, the neighbours divide 1. -/
theorem spacing_divides (nonzero : q ≠ 0) (small : |q| < 2 ^ bits) : ∃ j : ℕ, spacing bits q = 1 / 2 ^ j := by
  have log : Int.log 2 |q| < bits := by
    refine (Int.lt_zpow_iff_log_lt (by decide) (abs_pos.mpr nonzero)).mp ?_
    rw [zpow_natCast]
    exact_mod_cast small
  refine ⟨(bits - 1 - Int.log 2 |q|).toNat, ?_⟩
  have exponent : Int.log 2 |q| + 1 - bits = -((bits - 1 - Int.log 2 |q|).toNat : ℤ) := by omega
  rw [spacing, exponent, zpow_neg, zpow_natCast, one_div]

/-- So no whole number lies between such a number and the one it is rounded to. -/
theorem le_round {k : ℤ} (small : |q| < 2 ^ bits) (le : k ≤ q) : k ≤ round bits q := by
  by_cases zero : q = 0
  · rw [zero, round_zero]
    rwa [zero] at le
  · obtain ⟨j, divides⟩ := spacing_divides zero small
    have power : (0 : ℚ) < 2 ^ j := by positivity
    rw [round, divides, div_div_eq_mul_div, div_one, mul_one_div, le_div_iff₀ power]
    have scaled : ((k * 2 ^ j : ℤ) : ℚ) ≤ q * 2 ^ j := by
      push_cast
      exact mul_le_mul_of_nonneg_right le power.le
    exact_mod_cast le_nearest scaled

theorem one_le_round (some : bits ≠ 0) (one : 1 ≤ q) : 1 ≤ round bits q := by
  have size : |q| = q := abs_of_nonneg (by linarith)
  by_cases small : |q| < 2 ^ bits
  · exact_mod_cast le_round small (k := 1) (by exact_mod_cast one)
  · have two : (2 : ℚ) ≤ 2 ^ bits := le_self_pow₀ (by norm_num) some
    have large : 2 ≤ q := by linarith
    have error := (abs_le.mp (round_relative bits q)).1
    have half : |q| / 2 ^ bits ≤ |q| / 2 := div_le_div_of_nonneg_left (abs_nonneg q) (by norm_num) two
    linarith

theorem round_natCast {n : ℕ} (small : n < 2 ^ bits) : round bits n = n := by
  by_cases zero : (n : ℚ) = 0
  · rw [zero, round_zero]
  · have size : |(n : ℚ)| < 2 ^ bits := by
      rw [Nat.abs_cast]
      exact_mod_cast small
    obtain ⟨j, divides⟩ := spacing_divides zero size
    have whole : (n : ℚ) / spacing bits n = ((n * 2 ^ j : ℕ) : ℤ) := by
      rw [divides, div_div_eq_mul_div, div_one]
      push_cast
      ring
    rw [round, whole, nearest_intCast, ← whole, div_mul_cancel₀ _ spacing_pos.ne']

/-- A quotient is rounded by less than its distance to the next whole number, while the dividend has no
more bits than a significand. -/
theorem floor_round_div {a v : ℕ} (positive : 0 < v) (small : a < 2 ^ bits) :
    ⌊round bits (a / v)⌋ = ((a / v : ℕ) : ℤ) := by
  have divisor : (0 : ℚ) < v := by exact_mod_cast positive
  have nonneg : (0 : ℚ) ≤ (a : ℚ) / v := by positivity
  have quotient : (a : ℚ) / v ≤ a := div_le_self (by positivity) (by exact_mod_cast positive)
  have size : |(a : ℚ) / v| < 2 ^ bits := by
    rw [abs_of_nonneg nonneg]
    exact quotient.trans_lt (by exact_mod_cast small)
  rw [Int.floor_eq_iff, Int.cast_natCast]
  constructor
  · have below : (((a / v : ℕ) : ℤ) : ℚ) ≤ (a : ℚ) / v := by
      rw [Int.cast_natCast, le_div_iff₀ divisor]
      exact_mod_cast Nat.div_mul_le_self a v
    exact_mod_cast le_round size below
  · have next : (a : ℚ) + 1 ≤ ((a / v : ℕ) + 1) * v := by
      exact_mod_cast Nat.lt_mul_of_div_lt (Nat.lt_succ_self (a / v)) positive
    have error := (abs_le.mp (round_relative bits ((a : ℚ) / v))).2
    have less : |(a : ℚ) / v| / 2 ^ bits < 1 / v := by
      rw [abs_of_nonneg nonneg, div_div, div_lt_div_iff₀ (by positivity) divisor, one_mul, mul_comm (v : ℚ)]
      exact mul_lt_mul_of_pos_right (by exact_mod_cast small) divisor
    have bound : ((a : ℚ) + 1) / v ≤ (a / v : ℕ) + 1 := (div_le_iff₀ divisor).mpr next
    rw [add_div] at bound
    linarith

end Rounding
