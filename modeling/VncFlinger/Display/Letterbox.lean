import VncFlinger.Display.VirtualDisplay

/-!
# The letterbox in whole pixels

The viewport is never larger than the buffer, and what it leaves free is split around it.
-/

namespace VncFlinger.Display

/-- The same bits, read as signed. -/
theorem toInt_toInt32_eq (x : UInt32) :
    x.toInt32.toInt = if x.toNat < 2 ^ 31 then (x.toNat : ℤ) else (x.toNat : ℤ) - 2 ^ 32 := by
  have word : x.toNat = x.toBitVec.toNat := rfl
  show x.toBitVec.toInt = _
  rw [BitVec.toInt_eq_toNat_cond, word]
  split <;> split <;> omega

theorem toInt_toInt32 {x : UInt32} (small : x.toNat < 2 ^ 31) : x.toInt32.toInt = x.toNat := by
  rw [toInt_toInt32_eq, if_pos small]

theorem aspectRatio_exact (r : Rect) : aspectRatio ℚ r = r.getWidth.toInt / r.getHeight.toInt := rfl

/-- In one direction the viewport takes `out` of the buffer's pixels, and half of the rest lies
before it. -/
def Placed (buffer : UInt32) (near far : Int32) (out : ℕ) : Prop :=
  out ≤ buffer.toNat ∧ near.toInt = ((buffer.toNat - out) / 2 : ℕ) ∧ far.toInt = near.toInt + out

/-- The longest side of the source's aspect ratio in a buffer this large, before the other
direction limits it. -/
def fitted (buffer source other : ℕ) : ℕ := buffer * source / other

theorem fitted_le {w h sw sh : ℕ} (narrow : w ≤ fitted h sw sh) : fitted w sh sw ≤ h := by
  have product : w * sh ≤ h * sw :=
    (Nat.mul_le_mul_right sh narrow).trans (Nat.div_mul_le_self (h * sw) sh)
  exact Nat.div_le_of_le_mul (by rw [Nat.mul_comm sw h]; exact product)

def outWidth (w h sw sh : ℕ) : ℕ := min w (fitted h sw sh)

def outHeight (w h sw sh : ℕ) : ℕ := if w ≤ fitted h sw sh then fitted w sh sw else h

theorem outHeight_le {w h sw sh : ℕ} : outHeight w h sw sh ≤ h := by
  unfold outHeight
  split
  case isTrue narrow => exact fitted_le narrow
  case isFalse => exact Nat.le_refl h

/-- The words of an edge on either side of a centred stretch. No sum leaves the buffer, so none wraps. -/
theorem centred_toNat {buffer out : UInt32} (fits : out.toNat ≤ buffer.toNat) :
    ((buffer - out) / 2).toNat = (buffer.toNat - out.toNat) / 2 ∧
      ((buffer - out) / 2 + out).toNat = (buffer.toNat - out.toNat) / 2 + out.toNat := by
  have bound := buffer.toNat_lt
  have rest : (buffer - out).toNat = buffer.toNat - out.toNat :=
    UInt32.toNat_sub_of_le buffer out (UInt32.le_iff_toNat_le.mpr fits)
  have half : ((buffer - out) / 2).toNat = (buffer.toNat - out.toNat) / 2 := by
    rw [UInt32.toNat_div, rest]
    rfl
  refine ⟨half, ?_⟩
  rw [UInt32.toNat_add, half]
  exact Nat.mod_eq_of_lt (by omega)

theorem placed_centred {buffer out : UInt32} {size : ℕ} (whole : out.toNat = size)
    (fits : size ≤ buffer.toNat) (small : buffer.toNat < 2 ^ 31) :
    Placed buffer ((buffer - out) / 2).toInt32 ((buffer - out) / 2 + out).toInt32 size := by
  subst whole
  obtain ⟨half, far⟩ := centred_toNat fits
  refine ⟨fits, ?_, ?_⟩
  · rw [toInt_toInt32 (by omega), half]
  · rw [toInt_toInt32 (by omega), toInt_toInt32 (by omega), half, far]
    omega

/-- Should the stretch be longer than the buffer, the difference wraps, and the far edge comes to lie
before the near one. -/
theorem centred_reversed {buffer out : UInt32} (small : buffer.toNat < 2 ^ 31) (longer : buffer.toNat < out.toNat) :
    ((buffer - out) / 2 + out).toInt32 < ((buffer - out) / 2).toInt32 := by
  have bound := out.toNat_lt
  have rest : (buffer - out).toNat = 2 ^ 32 - out.toNat + buffer.toNat := by
    rw [UInt32.toNat_sub]
    exact Nat.mod_eq_of_lt (by omega)
  have half : ((buffer - out) / 2).toNat = (2 ^ 32 - out.toNat + buffer.toNat) / 2 := by
    rw [UInt32.toNat_div, rest]
    rfl
  have far : ((buffer - out) / 2 + out).toNat = ((2 ^ 32 - out.toNat + buffer.toNat) / 2 + out.toNat) % 2 ^ 32 := by
    rw [UInt32.toNat_add, half]
  rw [Int32.lt_iff_toInt_lt, toInt_toInt32_eq, toInt_toInt32_eq, half, far]
  split <;> split <;> omega

/-- In any arithmetic the viewport is centred across, and down it is centred or its edges are reversed. -/
theorem letterbox_centred (F : Type) [Floats F] (w h : UInt32) (r : Rect)
    (small : w.toNat < 2 ^ 31 ∧ h.toNat < 2 ^ 31) :
    (∃ out, Placed w (letterbox F w h r).left (letterbox F w h r).right out) ∧
      ((∃ out, Placed h (letterbox F w h r).top (letterbox F w h r).bottom out) ∨
        (letterbox F w h r).bottom < (letterbox F w h r).top) := by
  unfold letterbox
  simp only
  refine ⟨⟨_, placed_centred rfl ?_ small.1⟩, ?_⟩
  · split
    case isTrue => exact Nat.le_refl _
    case isFalse wide => exact (UInt32.le_iff_toNat_le.mp (UInt32.le_of_lt (UInt32.not_le.mp wide)))
  · generalize (if w ≤ _ then _ else h : UInt32) = out
    by_cases fits : out.toNat ≤ h.toNat
    · exact Or.inl ⟨_, placed_centred rfl fits small.2⟩
    · exact Or.inr (centred_reversed small.2 (Nat.not_le.mp fits))

structure Sides (r : Rect) (sw sh : ℕ) : Prop where
  width : r.getWidth.toInt = sw
  height : r.getHeight.toInt = sh
  wide : 0 < sw
  high : 0 < sh

section

variable {r : Rect} {sw sh : ℕ} (w h : UInt32)

theorem narrower_toNat (sides : Sides r sw sh) : (toUInt32 (h.toNat * aspectRatio ℚ r)).toNat =
    min (fitted h.toNat sw sh) (2 ^ 32 - 1) := by
  have quotient : (h.toNat : ℚ) * aspectRatio ℚ r = ((h.toNat * sw : ℕ) : ℚ) / sh := by
    rw [aspectRatio_exact, sides.width, sides.height]
    push_cast
    ring
  rw [quotient, toNat_toUInt32_div, fitted]

theorem shorter_toNat (sides : Sides r sw sh) : (toUInt32 (w.toNat / aspectRatio ℚ r)).toNat =
    min (fitted w.toNat sh sw) (2 ^ 32 - 1) := by
  have quotient : (w.toNat : ℚ) / aspectRatio ℚ r = ((w.toNat * sh : ℕ) : ℚ) / sw := by
    rw [aspectRatio_exact, sides.width, sides.height, div_div_eq_mul_div]
    push_cast
    rfl
  rw [quotient, toNat_toUInt32_div, fitted]

theorem narrow_iff (sides : Sides r sw sh) :
    w ≤ toUInt32 (h.toNat * aspectRatio ℚ r) ↔ w.toNat ≤ fitted h.toNat sw sh := by
  rw [UInt32.le_iff_toNat_le, narrower_toNat h sides]
  have bound := w.toNat_lt
  omega

theorem outWidth_toNat (sides : Sides r sw sh) :
    (if w ≤ toUInt32 (h.toNat * aspectRatio ℚ r) then w else toUInt32 (h.toNat * aspectRatio ℚ r)).toNat =
      outWidth w.toNat h.toNat sw sh := by
  have bound := w.toNat_lt
  rw [outWidth]
  split
  case isTrue narrow =>
    have le := (narrow_iff w h sides).mp narrow
    omega
  case isFalse wide =>
    have lt := mt (narrow_iff w h sides).mpr wide
    rw [narrower_toNat h sides]
    omega

theorem outHeight_toNat (sides : Sides r sw sh) :
    (if w ≤ toUInt32 (h.toNat * aspectRatio ℚ r) then toUInt32 (w.toNat / aspectRatio ℚ r) else h).toNat =
      outHeight w.toNat h.toNat sw sh := by
  have bound := h.toNat_lt
  have fits : outHeight w.toNat h.toNat sw sh ≤ h.toNat := outHeight_le
  rw [outHeight] at fits ⊢
  by_cases narrow : w.toNat ≤ fitted h.toNat sw sh
  · rw [if_pos narrow] at fits ⊢
    rw [if_pos ((narrow_iff w h sides).mpr narrow), shorter_toNat w sides]
    omega
  · rw [if_neg narrow, if_neg (mt (narrow_iff w h sides).mp narrow)]

theorem letterbox_placed (sides : Sides r sw sh) (small : w.toNat < 2 ^ 31 ∧ h.toNat < 2 ^ 31) :
    Placed w (letterbox ℚ w h r).left (letterbox ℚ w h r).right (outWidth w.toNat h.toNat sw sh) ∧
      Placed h (letterbox ℚ w h r).top (letterbox ℚ w h r).bottom (outHeight w.toNat h.toNat sw sh) :=
  ⟨placed_centred (outWidth_toNat w h sides) (Nat.min_le_left _ _) small.1,
    placed_centred (outHeight_toNat w h sides) outHeight_le small.2⟩

end

end VncFlinger.Display
