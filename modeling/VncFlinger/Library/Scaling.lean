import Mathlib.Data.Finset.Card
import Mathlib.Data.Finset.Range

/-!
# Scaling a range of whole numbers

The numbers up to `n` are scaled to those up to `m` by a quotient rounded down.
-/

namespace Scaling

variable {n m : ℕ}

def scale (n m k : ℕ) : ℕ := k * m / n

theorem scale_end (filled : 0 < n) : scale n m n = m := Nat.mul_div_cancel_left m filled

/-- Where the range is not stretched, each number is met at the first multiple that reaches it. -/
theorem scale_onto (le : m ≤ n) {t : ℕ} (below : t < m) : ∃ k < n, scale n m k = t := by
  have positive : 0 < m := by omega
  have first : m * ((t * n + (m - 1)) / m) ≤ t * n + (m - 1) := Nat.mul_div_le _ _
  have past : t * n + (m - 1) < m * ((t * n + (m - 1)) / m) + m := Nat.lt_mul_div_succ _ positive
  generalize (t * n + (m - 1)) / m = k at first past
  have product : k * m = m * k := Nat.mul_comm k m
  have next : (t + 1) * n = t * n + n := Nat.succ_mul t n
  have top : (t + 1) * n ≤ m * n := Nat.mul_le_mul_right n below
  refine ⟨k, ?_, ?_⟩
  · by_contra beyond
    have most : m * n ≤ m * k := Nat.mul_le_mul_left m (Nat.not_lt.mp beyond)
    omega
  · exact Nat.div_eq_of_lt_le (by omega) (by omega)

/-- Every number below `m` is met exactly if the range is not stretched. -/
theorem onto_iff (filled : 0 < n) : (∀ t < m, ∃ k ≤ n, scale n m k = t) ↔ m ≤ n := by
  constructor
  · intro onto
    have cover : Finset.range m ⊆ (Finset.range n).image (scale n m) := by
      intro t member
      obtain ⟨k, most, met⟩ := onto t (Finset.mem_range.mp member)
      have before : k ≠ n := by
        rintro rfl
        rw [scale_end filled] at met
        exact absurd (Finset.mem_range.mp member) (by omega)
      exact Finset.mem_image.mpr ⟨k, Finset.mem_range.mpr (by omega), met⟩
    calc m = (Finset.range m).card := (Finset.card_range m).symm
      _ ≤ ((Finset.range n).image (scale n m)).card := Finset.card_le_card cover
      _ ≤ (Finset.range n).card := Finset.card_image_le
      _ = n := Finset.card_range n
  · intro le t below
    obtain ⟨k, before, met⟩ := scale_onto le below
    exact ⟨k, Nat.le_of_lt before, met⟩

end Scaling
