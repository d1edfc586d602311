import VncFlinger.Display.Letterbox
import Mathlib.Tactic.Zify

/-!
# The viewport of any buffer

What a letterbox is for, the letterbox in whole numbers, and `getDisplayRect` beside it. Its words
are those of the letterbox for every size. Only `Rect`, which keeps them as signed coordinates,
loses an edge that lies at 2^31 or further out.
-/

namespace VncFlinger.Display

structure Edges where
  left : ℤ
  top : ℤ
  right : ℤ
  bottom : ℤ
  deriving DecidableEq

def Edges.width (e : Edges) : ℤ := e.right - e.left

def Edges.height (e : Edges) : ℤ := e.bottom - e.top

/-- The largest rectangle of `sw` by `sh` in a buffer of `w` by `h`, up to less than a pixel. -/
structure IsLetterbox (w h sw sh : ℤ) (e : Edges) : Prop where
  across : 0 ≤ e.left ∧ e.left ≤ e.right ∧ e.right ≤ w
  down : 0 ≤ e.top ∧ e.top ≤ e.bottom ∧ e.bottom ≤ h
  spans : (e.left = 0 ∧ e.right = w) ∨ (e.top = 0 ∧ e.bottom = h)
  centred : |w - e.right - e.left| ≤ 1 ∧ |h - e.bottom - e.top| ≤ 1
  narrow : e.width = w → 0 ≤ w * sh - e.height * sw ∧ w * sh - e.height * sw < sw
  short : e.width ≠ w → 0 ≤ h * sw - e.width * sh ∧ h * sw - e.width * sh < sh

/-! ### The letterbox in whole numbers -/

def offset (buffer out : ℕ) : ℕ := (buffer - out) / 2

def letterboxEdges (w h sw sh : ℕ) : Edges :=
  let x := offset w (outWidth w h sw sh)
  let y := offset h (outHeight w h sw sh)
  ⟨x, y, (x + outWidth w h sw sh : ℕ), (y + outHeight w h sw sh : ℕ)⟩

theorem fitted_bounds (buffer source : ℕ) {other : ℕ} (positive : 0 < other) :
    fitted buffer source other * other ≤ buffer * source ∧
      buffer * source < fitted buffer source other * other + other :=
  ⟨Nat.div_mul_le_self _ _, Nat.lt_div_mul_add positive⟩

theorem offset_centred {buffer out : ℕ} (fits : out ≤ buffer) :
    offset buffer out + out ≤ buffer ∧
      |(buffer : ℤ) - (offset buffer out + out : ℕ) - offset buffer out| ≤ 1 := by
  unfold offset
  refine ⟨by omega, abs_le.mpr ⟨?_, ?_⟩⟩ <;> omega

theorem offset_full (buffer : ℕ) : offset buffer buffer = 0 := by
  simp [offset]

section

variable {w h sw sh : ℕ}

theorem letterboxEdges_width : (letterboxEdges w h sw sh).width = outWidth w h sw sh := by
  simp only [Edges.width, letterboxEdges]
  omega

theorem letterboxEdges_height : (letterboxEdges w h sw sh).height = outHeight w h sw sh := by
  simp only [Edges.height, letterboxEdges]
  omega

theorem outWidth_full_iff : outWidth w h sw sh = w ↔ w ≤ fitted h sw sh := by
  unfold outWidth
  omega

theorem letterboxEdges_isLetterbox (wide : 0 < sw) (high : 0 < sh) :
    IsLetterbox w h sw sh (letterboxEdges w h sw sh) := by
  have widthFits : outWidth w h sw sh ≤ w := Nat.min_le_left _ _
  have heightFits : outHeight w h sw sh ≤ h := outHeight_le
  obtain ⟨right, middle⟩ := offset_centred widthFits
  obtain ⟨bottom, centre⟩ := offset_centred heightFits
  refine ⟨?_, ?_, ?_, ⟨middle, centre⟩, ?_, ?_⟩
  · simp only [letterboxEdges]
    omega
  · simp only [letterboxEdges]
    omega
  · by_cases narrow : w ≤ fitted h sw sh
    · left
      simp [letterboxEdges, outWidth_full_iff.mpr narrow, offset_full]
    · right
      simp [letterboxEdges, outHeight, narrow, offset_full]
  · intro full
    rw [letterboxEdges_width] at full
    have narrow := outWidth_full_iff.mp (Int.ofNat_inj.mp full)
    rw [letterboxEdges_height, outHeight, if_pos narrow]
    obtain ⟨lower, upper⟩ := fitted_bounds w sh wide
    zify at lower upper
    omega
  · intro partly
    rw [letterboxEdges_width] at partly ⊢
    have cut : outWidth w h sw sh = fitted h sw sh := by
      have notFull : outWidth w h sw sh ≠ w := fun same => partly (by rw [same])
      unfold outWidth at notFull ⊢
      omega
    obtain ⟨lower, upper⟩ := fitted_bounds h sw high
    rw [cut]
    zify at lower upper
    omega

end

/-! ### The code's rectangle -/

def Rect.edges (read : Int32 → ℤ) (r : Rect) : Edges := ⟨read r.left, read r.top, read r.right, read r.bottom⟩

/-- A coordinate's bits read as the `uint32_t` it was computed in. -/
def unsigned (c : Int32) : ℤ := c.toUInt32.toNat

def VirtualDisplay.outWidth (vd : VirtualDisplay) : UInt32 :=
  if vd.mWidth ≤ toUInt32 (vd.mHeight.toNat * aspectRatio ℚ vd.mSourceRect) then vd.mWidth
  else toUInt32 (vd.mHeight.toNat * aspectRatio ℚ vd.mSourceRect)

def VirtualDisplay.outHeight (vd : VirtualDisplay) : UInt32 :=
  if vd.mWidth ≤ toUInt32 (vd.mHeight.toNat * aspectRatio ℚ vd.mSourceRect) then
    toUInt32 (vd.mWidth.toNat / aspectRatio ℚ vd.mSourceRect)
  else vd.mHeight

theorem getDisplayRect_eq (vd : VirtualDisplay) : vd.getDisplayRect ℚ =
    ⟨((vd.mWidth - vd.outWidth) / 2).toInt32, ((vd.mHeight - vd.outHeight) / 2).toInt32,
      ((vd.mWidth - vd.outWidth) / 2 + vd.outWidth).toInt32,
      ((vd.mHeight - vd.outHeight) / 2 + vd.outHeight).toInt32⟩ := rfl

theorem unsigned_toInt32 (x : UInt32) : unsigned x.toInt32 = x.toNat := by
  simp [unsigned]

theorem toInt_eq_unsigned (c : Int32) :
    c.toInt = if unsigned c < 2 ^ 31 then unsigned c else unsigned c - 2 ^ 32 := by
  have word : unsigned c = c.toBitVec.toNat := rfl
  have signed : c.toInt = c.toBitVec.toInt := rfl
  rw [signed, BitVec.toInt_eq_toNat_cond, word]
  split <;> split <;> omega

variable {sw sh : ℕ} (vd : VirtualDisplay)

theorem out_toNat (sides : Sides vd.mSourceRect sw sh) :
    vd.outWidth.toNat = outWidth vd.mWidth.toNat vd.mHeight.toNat sw sh ∧
      vd.outHeight.toNat = outHeight vd.mWidth.toNat vd.mHeight.toNat sw sh :=
  ⟨outWidth_toNat vd.mWidth vd.mHeight sides, outHeight_toNat vd.mWidth vd.mHeight sides⟩

/-- Neither subtraction of `getDisplayRect` goes below zero. -/
theorem out_le (sides : Sides vd.mSourceRect sw sh) :
    vd.outWidth ≤ vd.mWidth ∧ vd.outHeight ≤ vd.mHeight := by
  obtain ⟨width, height⟩ := out_toNat vd sides
  refine ⟨UInt32.le_iff_toNat_le.mpr ?_, UInt32.le_iff_toNat_le.mpr ?_⟩
  · rw [width]
    exact Nat.min_le_left _ _
  · rw [height]
    exact outHeight_le

theorem getDisplayRect_edges (sides : Sides vd.mSourceRect sw sh) :
    (vd.getDisplayRect ℚ).edges unsigned = letterboxEdges vd.mWidth.toNat vd.mHeight.toNat sw sh := by
  obtain ⟨width, height⟩ := out_toNat vd sides
  obtain ⟨widthFits, heightFits⟩ := out_le vd sides
  obtain ⟨left, right⟩ := centred_toNat (UInt32.le_iff_toNat_le.mp widthFits)
  obtain ⟨top, bottom⟩ := centred_toNat (UInt32.le_iff_toNat_le.mp heightFits)
  simp only [getDisplayRect_eq, Rect.edges, unsigned_toInt32, left, right, top, bottom, width, height]
  rfl

theorem signed_eq_of_small (sides : Sides vd.mSourceRect sw sh)
    (right : (letterboxEdges vd.mWidth.toNat vd.mHeight.toNat sw sh).right < 2 ^ 31)
    (bottom : (letterboxEdges vd.mWidth.toNat vd.mHeight.toNat sw sh).bottom < 2 ^ 31) :
    (vd.getDisplayRect ℚ).edges Int32.toInt = (vd.getDisplayRect ℚ).edges unsigned := by
  have ideal := letterboxEdges_isLetterbox (w := vd.mWidth.toNat) (h := vd.mHeight.toNat) sides.wide sides.high
  rw [← getDisplayRect_edges vd sides] at ideal right bottom
  obtain ⟨-, across, -⟩ := ideal.across
  obtain ⟨-, down, -⟩ := ideal.down
  simp only [Rect.edges] at across down right bottom ⊢
  rw [toInt_eq_unsigned, toInt_eq_unsigned, toInt_eq_unsigned, toInt_eq_unsigned, if_pos right, if_pos bottom,
    if_pos (across.trans_lt right), if_pos (down.trans_lt bottom)]

theorem toInt_neg_of_far {c : Int32} (far : 2 ^ 31 ≤ unsigned c) : c.toInt < 0 := by
  have bound := c.toUInt32.toNat_lt
  have word : unsigned c = c.toUInt32.toNat := rfl
  rw [toInt_eq_unsigned, if_neg (by omega)]
  omega

theorem IsLetterbox.near {r : Rect} {w h sw sh : ℤ} (signed : IsLetterbox w h sw sh (r.edges Int32.toInt)) :
    unsigned r.right < 2 ^ 31 ∧ unsigned r.bottom < 2 ^ 31 := by
  have right : 0 ≤ r.right.toInt := signed.across.1.trans signed.across.2.1
  have bottom : 0 ≤ r.bottom.toInt := signed.down.1.trans signed.down.2.1
  constructor
  · by_contra far
    exact absurd (toInt_neg_of_far (Int.not_lt.mp far)) (Int.not_lt.mpr right)
  · by_contra far
    exact absurd (toInt_neg_of_far (Int.not_lt.mp far)) (Int.not_lt.mpr bottom)

/-- For every buffer the words of the rectangle are a letterbox, and so are its coordinates exactly if
no edge lies at 2^31 or further out. In a buffer of smaller sides none does. -/
theorem getDisplayRect_isLetterbox (sides : Sides vd.mSourceRect sw sh) :
    (vd.outWidth ≤ vd.mWidth ∧ vd.outHeight ≤ vd.mHeight) ∧
      IsLetterbox vd.mWidth.toNat vd.mHeight.toNat sw sh ((vd.getDisplayRect ℚ).edges unsigned) ∧
      (IsLetterbox vd.mWidth.toNat vd.mHeight.toNat sw sh ((vd.getDisplayRect ℚ).edges Int32.toInt) ↔
        (letterboxEdges vd.mWidth.toNat vd.mHeight.toNat sw sh).right < 2 ^ 31 ∧
          (letterboxEdges vd.mWidth.toNat vd.mHeight.toNat sw sh).bottom < 2 ^ 31) ∧
      (vd.mWidth.toNat < 2 ^ 31 → vd.mHeight.toNat < 2 ^ 31 →
        IsLetterbox vd.mWidth.toNat vd.mHeight.toNat sw sh ((vd.getDisplayRect ℚ).edges Int32.toInt)) := by
  have words := getDisplayRect_edges vd sides
  have ideal : IsLetterbox vd.mWidth.toNat vd.mHeight.toNat sw sh ((vd.getDisplayRect ℚ).edges unsigned) := by
    rw [words]
    exact letterboxEdges_isLetterbox sides.wide sides.high
  have small : (letterboxEdges vd.mWidth.toNat vd.mHeight.toNat sw sh).right < 2 ^ 31 ∧
      (letterboxEdges vd.mWidth.toNat vd.mHeight.toNat sw sh).bottom < 2 ^ 31 →
      IsLetterbox vd.mWidth.toNat vd.mHeight.toNat sw sh ((vd.getDisplayRect ℚ).edges Int32.toInt) := by
    rintro ⟨right, bottom⟩
    rw [signed_eq_of_small vd sides right bottom]
    exact ideal
  refine ⟨out_le vd sides, ideal, ⟨fun signed => ?_, small⟩, fun width height => small ?_⟩
  · rw [← words]
    exact signed.near
  · have inside := letterboxEdges_isLetterbox (w := vd.mWidth.toNat) (h := vd.mHeight.toNat) sides.wide sides.high
    exact ⟨inside.across.2.2.trans_lt (by exact_mod_cast width),
      inside.down.2.2.trans_lt (by exact_mod_cast height)⟩

/-- A portrait display in a buffer three pixels wider than it is high. -/
def uprightBuffer : VirtualDisplay := .new ℚ ⟨1080, 1920⟩ .rotation0 803 800 7

theorem getDisplayRect_isLetterbox_portrait : Sides uprightBuffer.mSourceRect 1080 1920 ∧
    IsLetterbox 803 800 1080 1920 ((uprightBuffer.getDisplayRect ℚ).edges unsigned) := by
  have sides : Sides uprightBuffer.mSourceRect 1080 1920 := ⟨rfl, rfl, by decide, by decide⟩
  exact ⟨sides, (getDisplayRect_isLetterbox uprightBuffer sides).2.1⟩

/-- A buffer as high and as wide as no coordinate of `Rect` is, with a source of one pixel. -/
def enormous : VirtualDisplay := .new ℚ ⟨1, 1⟩ .rotation0 0x80000000 0x80000000 7

theorem enormous_viewport_negative : Sides enormous.mSourceRect 1 1 ∧
    ¬ IsLetterbox (2 ^ 31) (2 ^ 31) 1 1 ((enormous.getDisplayRect ℚ).edges Int32.toInt) := by
  have sides : Sides enormous.mSourceRect 1 1 := ⟨rfl, rfl, by decide, by decide⟩
  refine ⟨sides, fun signed => ?_⟩
  have far : (2 : ℤ) ^ 31 ≤ unsigned (enormous.getDisplayRect ℚ).right := by
    have words : unsigned (enormous.getDisplayRect ℚ).right =
        (letterboxEdges enormous.mWidth.toNat enormous.mHeight.toNat 1 1).right :=
      congrArg Edges.right (getDisplayRect_edges enormous sides)
    rw [words]
    decide
  exact absurd signed.near.1 (Int.not_lt.mpr far)

end VncFlinger.Display
