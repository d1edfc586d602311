import VncFlinger.Library.Rounding
import VncFlinger.Display.Geometry

/-!
# The machine's floats

A `float` has 24 bits of significand, and an operation is the exact one, rounded. Quotients and products
of sizes stay far inside the range of the exponent. Only sizes are divided by 0, so there is one infinity.
-/

namespace VncFlinger.Display

inductive Single where
  | finite (value : ℚ)
  | infinite
  | nan
  deriving DecidableEq, Repr

namespace Single

def rounded (q : ℚ) : Single := .finite (Rounding.round 24 q)

def mul : Single → Single → Single
  | .finite a, .finite b => rounded (a * b)
  | .finite a, .infinite | .infinite, .finite a => if a = 0 then .nan else .infinite
  | .infinite, .infinite => .infinite
  | .nan, _ | _, .nan => .nan

def div : Single → Single → Single
  | .finite a, .finite b => if b = 0 then if a = 0 then .nan else .infinite else rounded (a / b)
  | .finite _, .infinite => .finite 0
  | .infinite, .finite _ => .infinite
  | .infinite, .infinite => .nan
  | .nan, _ | _, .nan => .nan

/-- C++ leaves the conversion of what no `uint32_t` holds open, and the machine saturates. -/
def toUInt32 : Single → UInt32
  | .finite q => Display.toUInt32 q
  | .infinite => 0xffffffff
  | .nan => 0

instance : Floats Single where
  one := .finite 1
  mul := mul
  div := div
  ofUInt32 w := rounded w.toNat
  ofInt32 x := rounded x.toInt
  toUInt32 := toUInt32
  unscaled_ne_zero {w} filled := by
    have positive : 1 ≤ w.toNat := by
      rw [Nat.one_le_iff_ne_zero]
      exact fun zero => filled (UInt32.toNat_inj.mp zero)
    have once : 1 ≤ Rounding.round 24 (w.toNat : ℚ) :=
      Rounding.one_le_round (by decide) (by exact_mod_cast positive)
    have twice : 1 ≤ Rounding.round 24 (Rounding.round 24 (w.toNat : ℚ) * 1) :=
      Rounding.one_le_round (by decide) (by rw [mul_one]; exact once)
    exact UInt32.pos_iff_ne_zero.mp (toUInt32_pos_iff.mpr twice)

theorem rounded_natCast {n : ℕ} (small : n < 2 ^ 24) : rounded n = .finite n := by
  rw [rounded, Rounding.round_natCast small]

theorem div_finite {a b : ℚ} (nonzero : b ≠ 0) : div (.finite a) (.finite b) = rounded (a / b) := by
  rw [div, if_neg nonzero]

/-- While the dividend has no more than 24 bits, the quotient is not rounded up to a whole number. -/
theorem divides : Divides Single (2 ^ 24) := by
  intro a v small positive divisorSmall
  have divisor : (v.toInt : ℚ) = (v.toInt.toNat : ℕ) := by exact_mod_cast (Int.toNat_of_nonneg positive.le).symm
  have filled : 0 < v.toInt.toNat := by omega
  show (toUInt32 (div (rounded a.toNat) (rounded v.toInt))).toNat = _
  rw [divisor, rounded_natCast small, rounded_natCast (by omega), div_finite (by exact_mod_cast filled.ne')]
  show (Display.toUInt32 (Rounding.round 24 _)).toNat = _
  have floor : (Rounding.round 24 ((a.toNat : ℚ) / v.toInt.toNat)).floor = ((a.toNat / v.toInt.toNat : ℕ) : ℤ) :=
    Rounding.floor_round_div filled small
  have quotient := Nat.div_le_self a.toNat v.toInt.toNat
  rw [toNat_toUInt32, floor, Int.toNat_natCast]
  omega

end Single

end VncFlinger.Display
