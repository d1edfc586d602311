import Mathlib.Data.Rat.Floor

/-!
# Sizes, rotations and rectangles

The float arithmetic that the sizes go through is a parameter. The rationals are the exact one, in
which only the conversion to an integer drops anything.
-/

namespace VncFlinger.Display

structure Size where
  width : Int32
  height : Int32
  deriving DecidableEq, Repr

def Size.Positive (s : Size) : Prop := 0 < s.width ∧ 0 < s.height

instance : DecidablePred Size.Positive := fun s => inferInstanceAs (Decidable (0 < s.width ∧ 0 < s.height))

inductive Rotation where
  | rotation0 | rotation90 | rotation180 | rotation270
  deriving DecidableEq, Repr

structure Rect where
  left : Int32
  top : Int32
  right : Int32
  bottom : Int32
  deriving DecidableEq, Repr

def Rect.sized (w h : Int32) : Rect := ⟨0, 0, w, h⟩

def Rect.getWidth (r : Rect) : Int32 := r.right - r.left

def Rect.getHeight (r : Rect) : Int32 := r.bottom - r.top

/-- `(uint32_t)q` drops the fraction. Out of range C++ leaves the result open, and the machine
saturates. -/
def toUInt32 (q : ℚ) : UInt32 := UInt32.ofNat (min q.floor.toNat (2 ^ 32 - 1))

theorem toNat_toUInt32 (q : ℚ) : (toUInt32 q).toNat = min q.floor.toNat (2 ^ 32 - 1) := by
  rw [toUInt32, UInt32.toNat_ofNat_of_lt']
  have small := Nat.min_le_right q.floor.toNat (2 ^ 32 - 1)
  exact Nat.lt_of_le_of_lt small (by decide)

theorem toNat_toUInt32_lt_iff {q : ℚ} {n : ℕ} (nonneg : 0 ≤ q) (small : n < 2 ^ 32) :
    (toUInt32 q).toNat < n ↔ q < n := by
  have whole : 0 ≤ q.floor := Int.floor_nonneg.mpr nonneg
  have floor : q.floor < n ↔ q < n := by exact_mod_cast Int.floor_lt (a := q) (z := n)
  rw [toNat_toUInt32, ← floor]
  omega

theorem toUInt32_pos_iff {q : ℚ} : 0 < toUInt32 q ↔ 1 ≤ q := by
  rw [UInt32.lt_iff_toNat_lt, toNat_toUInt32]
  have floor : 1 ≤ q.floor ↔ 1 ≤ q := by exact_mod_cast Rat.le_floor_iff (x := 1) (a := q)
  rw [← floor]
  show 0 < _ ↔ _
  omega

theorem toUInt32_natCast (w : UInt32) : toUInt32 (w.toNat : ℚ) = w := by
  have floor : (w.toNat : ℚ).floor = (w.toNat : ℤ) := by
    show ⌊(w.toNat : ℚ)⌋ = (w.toNat : ℤ)
    exact Int.floor_natCast w.toNat
  have small := w.toNat_lt
  rw [← UInt32.toNat_inj, toNat_toUInt32, floor, Int.toNat_natCast]
  omega

/-- A quotient of whole numbers, truncated, is the quotient of the machine. -/
theorem toNat_toUInt32_div (m d : ℕ) : (toUInt32 ((m : ℚ) / d)).toNat = min (m / d) (2 ^ 32 - 1) := by
  rw [toNat_toUInt32]
  have floor : ((m : ℚ) / d).floor = ((m / d : ℕ) : ℤ) := Rat.floor_natCast_div_natCast m d
  rw [floor, Int.toNat_natCast]

/-- The operations of `float`. A size at the scale 1 does not vanish. -/
class Floats (F : Type) extends One F, Mul F, Div F where
  ofUInt32 : UInt32 → F
  ofInt32 : Int32 → F
  toUInt32 : F → UInt32
  unscaled_ne_zero : ∀ {w : UInt32}, w ≠ 0 → toUInt32 (ofUInt32 w * 1) ≠ 0

instance : Floats ℚ where
  ofUInt32 w := w.toNat
  ofInt32 x := x.toInt
  toUInt32 := toUInt32
  unscaled_ne_zero {w} filled := by
    rw [mul_one, toUInt32_natCast]
    exact filled

@[simp] theorem ofUInt32_exact (w : UInt32) : (Floats.ofUInt32 w : ℚ) = w.toNat := rfl

@[simp] theorem ofInt32_exact (x : Int32) : (Floats.ofInt32 x : ℚ) = x.toInt := rfl

@[simp] theorem toUInt32_exact (q : ℚ) : Floats.toUInt32 q = toUInt32 q := rfl

/-- Numbers below the bound are divided as those of the machine's integers are. -/
def Divides (F : Type) [Floats F] (bound : ℕ) : Prop :=
  ∀ (a : UInt32) (v : Int32), a.toNat < bound → 0 < v.toInt → v.toInt < bound →
    (Floats.toUInt32 (Floats.ofUInt32 a / (Floats.ofInt32 v : F))).toNat = a.toNat / v.toInt.toNat

theorem divides_exact : Divides ℚ (2 ^ 32) := by
  intro a v _ positive _
  have divisor : (v.toInt : ℚ) = (v.toInt.toNat : ℕ) := by exact_mod_cast (Int.toNat_of_nonneg positive.le).symm
  have small := a.toNat_lt
  have quotient := Nat.div_le_self a.toNat v.toInt.toNat
  rw [ofUInt32_exact, ofInt32_exact, toUInt32_exact, divisor, toNat_toUInt32_div]
  omega

end VncFlinger.Display
