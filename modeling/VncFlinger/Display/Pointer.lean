import VncFlinger.Input.Keyboard
import VncFlinger.Input.Pointer
import VncFlinger.Display.Consumers
import VncFlinger.Display.Letterbox

/-!
# The pointer

`pointerEvent` as the source has it, and what one direction of it computes while the viewport is
centred in the buffer.
-/

namespace VncFlinger.Display

structure Point where
  x : Int32
  y : Int32
  deriving DecidableEq, Repr

section Translation

variable {F : Type} [Floats F]

/-- One direction of a position as the device gets it. What the quotient by an empty viewport
converts to is not specified. -/
def translate (F : Type) [Floats F] (undefined : UInt32) (pos : Int32) (buffer : UInt32)
    (viewport mode : Int32) : UInt32 :=
  let m := ((buffer.toInt32 - viewport) / 2).toUInt32
  let product := (pos.toUInt32 - m) * mode.toUInt32
  if viewport = 0 then undefined
  else Floats.toUInt32 (Floats.ofUInt32 product / (Floats.ofInt32 viewport : F))

theorem translate_empty {undefined : UInt32} {pos : Int32} {buffer : UInt32} {viewport mode : Int32}
    (empty : viewport = 0) : translate F undefined pos buffer viewport mode = undefined := by
  rw [translate, if_pos empty]

/-- The position lies in the viewport, its edges included. -/
def Accepted (r : Rect) (pos : Point) : Prop :=
  ¬(pos.x < r.left ∨ r.right < pos.x ∨ pos.y < r.top ∨ r.bottom < pos.y)

instance (r : Rect) (pos : Point) : Decidable (Accepted r pos) :=
  inferInstanceAs (Decidable (¬(pos.x < r.left ∨ r.right < pos.x ∨ pos.y < r.top ∨ r.bottom < pos.y)))

/-- `pointerEvent`; the result is the point it passes to `setCursorPos`, if it does. -/
def pointerEvent (p : Platform) (undefined : UInt32 × UInt32) (pos : Point) (buttonMask : Int32) :
    DesktopM F (Option Point) := do
  let d := (← get).listener
  let r := d.mDisplayRect
  if pos.x < r.left ∨ r.right < pos.x ∨ pos.y < r.top ∨ r.bottom < pos.y then
    return none
  else
    let b ← getPixels
    let x := translate F undefined.1 pos.x b.width r.getWidth d.mDisplayMode.width
    let y := translate F undefined.2 pos.y b.height r.getHeight d.mDisplayMode.height
    onDesktop (modify fun d => { d with
      mInputDevice := (Input.pointerEvent p.sys buttonMask x.toInt32 y.toInt32 d.mInputDevice).2 })
    return some ⟨x.toInt32, y.toInt32⟩

def keyEvent (p : Platform) (keysym : UInt32) (down : Bool) : DesktopM F Unit :=
  onDesktop (modify fun d => { d with mInputDevice := (Input.keyEvent p.sys down keysym d.mInputDevice).2 })

def translated (undefined : UInt32 × UInt32) (s : Buffered F Desktop) (pos : Point) : UInt32 × UInt32 :=
  let r := s.listener.mDisplayRect
  (translate F undefined.1 pos.x s.pixels.width r.getWidth s.listener.mDisplayMode.width,
    translate F undefined.2 pos.y s.pixels.height r.getHeight s.listener.mDisplayMode.height)

def pointed (p : Platform) (buttonMask : Int32) (at' : UInt32 × UInt32) (s : Buffered F Desktop) :
    Buffered F Desktop :=
  { s with listener := { s.listener with mInputDevice :=
      (Input.pointerEvent p.sys buttonMask at'.1.toInt32 at'.2.toInt32 s.listener.mInputDevice).2 } }

theorem pointerEvent_apply (p : Platform) (undefined : UInt32 × UInt32) (pos : Point) (buttonMask : Int32)
    (s : Buffered F Desktop) : pointerEvent p undefined pos buttonMask s =
      if Accepted s.listener.mDisplayRect pos then
        .ok (some ⟨(translated undefined s pos).1.toInt32, (translated undefined s pos).2.toInt32⟩)
          (pointed p buttonMask (translated undefined s pos) s)
      else .ok none s := by
  rw [pointerEvent, Outcomes.bind_ok (Outcomes.get_apply s)]
  by_cases accepted : Accepted s.listener.mDisplayRect pos
  · rw [if_pos accepted, if_neg (by exact accepted), Outcomes.bind_ok (getPixels_apply s)]
    rfl
  · rw [if_neg accepted, if_pos (not_not.mp accepted)]
    rfl

end Translation

/-! ### One direction -/

theorem toNat_toUInt32_of_nonneg {x : Int32} (nonneg : 0 ≤ x.toInt) : (x.toUInt32.toNat : ℤ) = x.toInt := by
  have order : 0 ≤ x := Int32.le_iff_toInt_le.mpr nonneg
  rw [Int32.toNat_toUInt32_of_le order]
  exact Int32.cast_toNatClampNeg x order

/-- The buffer's pixels in one direction, and the viewport centred among them. -/
structure Viewed (buffer : UInt32) (near far : Int32) (out : ℕ) : Prop where
  placed : Placed buffer near far out
  small : buffer.toNat < 2 ^ 31

variable {buffer : UInt32} {near far mode : Int32} {out : ℕ}

theorem Viewed.near_nonneg (viewed : Viewed buffer near far out) : 0 ≤ near.toInt := by
  rw [viewed.placed.2.1]
  exact Int.natCast_nonneg _

theorem Viewed.extent (viewed : Viewed buffer near far out) : (far - near).toInt = out := by
  obtain ⟨⟨fits, _, right⟩, small⟩ := viewed
  rw [Int32.toInt_sub, right]
  have difference : near.toInt + out - near.toInt = (out : ℤ) := by omega
  rw [difference]
  exact Int.bmod_eq_of_le (by omega) (by omega)

theorem Viewed.extent_eq_zero (viewed : Viewed buffer near far out) : far - near = 0 ↔ out = 0 := by
  rw [← Int32.toInt_inj, viewed.extent]
  exact Int.natCast_eq_zero

theorem Viewed.extent_pos (viewed : Viewed buffer near far out) : 0 < far - near ↔ 0 < out := by
  have zero : (0 : Int32).toInt = 0 := by decide
  rw [Int32.lt_iff_toInt_lt, viewed.extent, zero]
  exact Int.natCast_pos

/-- The offset recomputed from the buffer is the edge of the viewport. -/
theorem Viewed.offset (viewed : Viewed buffer near far out) :
    ((buffer.toInt32 - (far - near)) / 2).toUInt32 = near.toUInt32 := by
  have extent := viewed.extent
  obtain ⟨⟨fits, left, _⟩, small⟩ := viewed
  have rest : (buffer.toInt32 - (far - near)).toInt = buffer.toNat - out := by
    rw [Int32.toInt_sub, extent, toInt_toInt32 small]
    exact Int.bmod_eq_of_le (by omega) (by omega)
  have half : ((buffer.toInt32 - (far - near)) / 2).toInt = near.toInt := by
    have two : (2 : Int32).toInt = 2 := by decide
    rw [Int32.toInt_div, rest, left, two]
    have quotient : ((buffer.toNat : ℤ) - out).tdiv 2 = ((buffer.toNat - out) / 2 : ℕ) := by
      rw [← Nat.cast_sub fits]
      rfl
    rw [quotient]
    exact Int.bmod_eq_of_le (by omega) (by omega)
  rw [Int32.toInt_inj.mp half]

def beyond (near pos : Int32) : ℕ := (pos.toInt - near.toInt).toNat

theorem Viewed.beyond_toNat (viewed : Viewed buffer near far out) {pos : Int32} (inside : near.toInt ≤ pos.toInt) :
    (pos.toUInt32 - ((buffer.toInt32 - (far - near)) / 2).toUInt32).toNat = beyond near pos := by
  have nonneg := viewed.near_nonneg
  have first := toNat_toUInt32_of_nonneg (nonneg.trans inside)
  have second := toNat_toUInt32_of_nonneg nonneg
  rw [viewed.offset, UInt32.toNat_sub_of_le _ _ (UInt32.le_iff_toNat_le.mpr (by omega)), beyond]
  omega

/-- The product before the division. It wraps. -/
theorem Viewed.product_toNat (viewed : Viewed buffer near far out) {pos : Int32} (inside : near.toInt ≤ pos.toInt) :
    ((pos.toUInt32 - ((buffer.toInt32 - (far - near)) / 2).toUInt32) * mode.toUInt32).toNat =
      beyond near pos * mode.toUInt32.toNat % 2 ^ 32 := by
  rw [UInt32.toNat_mul, viewed.beyond_toNat inside]

theorem Viewed.translate_toNat {F : Type} [Floats F] {bound : ℕ} (divides : Divides F bound)
    (viewed : Viewed buffer near far out) {pos : Int32} (inside : near.toInt ≤ pos.toInt) (filled : out ≠ 0)
    (fits : out < bound) (small : beyond near pos * mode.toUInt32.toNat % 2 ^ 32 < bound) (undefined : UInt32) :
    (translate F undefined pos buffer (far - near) mode).toNat =
      beyond near pos * mode.toUInt32.toNat % 2 ^ 32 / out := by
  have nonempty : ¬far - near = 0 := mt viewed.extent_eq_zero.mp filled
  have extent := viewed.extent
  rw [translate, if_neg nonempty]
  refine (divides _ _ (by rw [viewed.product_toNat inside]; exact small) (by omega) (by omega)).trans ?_
  rw [viewed.product_toNat inside, extent, Int.toNat_natCast]

/-- The exact quotient is of the machine, and an empty viewport has none. -/
theorem Viewed.translate_exact (viewed : Viewed buffer near far out) {pos : Int32}
    (inside : near.toInt ≤ pos.toInt) (filled : out ≠ 0) (undefined : UInt32) :
    (translate ℚ undefined pos buffer (far - near) mode).toNat =
      beyond near pos * mode.toUInt32.toNat % 2 ^ 32 / out := by
  have fits := viewed.placed.1
  have small := viewed.small
  exact viewed.translate_toNat divides_exact inside filled (by omega) (Nat.mod_lt _ (by decide)) undefined

theorem Viewed.beyond_le (viewed : Viewed buffer near far out) {pos : Int32} (inside : near.toInt ≤ pos.toInt)
    (before : pos.toInt ≤ far.toInt) : beyond near pos ≤ out := by
  have right := viewed.placed.2.2
  unfold beyond
  omega

/-- Only the far edge itself lies a whole viewport beyond the near one. -/
theorem Viewed.beyond_eq (viewed : Viewed buffer near far out) {pos : Int32} (inside : near.toInt ≤ pos.toInt) :
    beyond near pos = out ↔ pos = far := by
  have right := viewed.placed.2.2
  rw [← Int32.toInt_inj]
  unfold beyond
  omega

end VncFlinger.Display
