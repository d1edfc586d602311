import VncFlinger.Display.Single
import VncFlinger.Display.Injection

/-!
# The cursor position the server is told

`pointerEvent` passes `setCursorPos` the coordinates of the display mode, as the machine's floats give
them. The server reads them as coordinates of the framebuffer, in which the client pointed.
-/

namespace VncFlinger.Display

variable {p : Platform}

def InBuffer (b : PixelBuffer Single) (point : Point) : Prop :=
  (0 ≤ point.x ∧ point.x < b.width.toInt32) ∧ 0 ≤ point.y ∧ point.y < b.height.toInt32

/-- A position in the framebuffer is passed on as one, whatever a quotient by an empty viewport gives. -/
def CursorStaysInside (p : Platform) : Option (Buffered Single Desktop) → ClientEvent → Prop
  | some s, .pointer pos buttonMask _ => InBuffer s.pixels pos → ∀ undefined point s',
      pointerEvent p undefined pos buttonMask s = .ok (some point) s' → InBuffer s.pixels point
  | _, _ => True

/-- The position's share of the viewport, in pixels of the mode. The product wraps, and it, the side of
the viewport and their quotient are rounded to floats. -/
def share (near far mode pos : Int32) : ℚ :=
  Rounding.round 24 (Rounding.round 24 (beyond near pos * mode.toInt.toNat % 2 ^ 32 : ℕ) /
    Rounding.round 24 (far - near).toInt)

/-- The share is less than the buffer. -/
def ShareFits (buffer : UInt32) (near far mode pos : Int32) : Prop :=
  0 < far - near ∧ share near far mode pos < buffer.toNat

def SharesFit : Option (Buffered Single Desktop) → ClientEvent → Prop
  | some s, .pointer pos _ _ => InBuffer s.pixels pos → Accepted s.listener.mDisplayRect pos →
      ShareFits s.pixels.width s.listener.mDisplayRect.left s.listener.mDisplayRect.right
        s.listener.mDisplayMode.width pos.x ∧
      ShareFits s.pixels.height s.listener.mDisplayRect.top s.listener.mDisplayRect.bottom
        s.listener.mDisplayMode.height pos.y
  | _, _ => True

/-! ### One direction -/

section Direction

variable {buffer : UInt32} {near far mode pos : Int32} {out : ℕ}

theorem Viewed.translate_single (viewed : Viewed buffer near far out) (positive : 0 < mode)
    (inside : near.toInt ≤ pos.toInt) (filled : out ≠ 0) (undefined : UInt32) :
    translate Single undefined pos buffer (far - near) mode = toUInt32 (share near far mode pos) := by
  have nonempty : ¬far - near = 0 := mt viewed.extent_eq_zero.mp filled
  have one : (1 : ℚ) ≤ (far - near).toInt := by
    rw [viewed.extent]
    exact_mod_cast Nat.one_le_iff_ne_zero.mpr filled
  have divisor : (1 : ℚ) ≤ Rounding.round 24 (far - near).toInt := Rounding.one_le_round (by decide) one
  rw [translate, if_neg nonempty]
  show Single.toUInt32 (Single.div (.rounded _) (.rounded _)) = _
  rw [viewed.product_toNat inside, mode_toNat positive]
  exact congrArg Single.toUInt32 (Single.div_finite (by linarith))

theorem share_nonneg (viewed : Viewed buffer near far out) : 0 ≤ share near far mode pos := by
  have extent : (0 : ℚ) ≤ (far - near).toInt := by
    rw [viewed.extent]
    positivity
  exact Rounding.round_nonneg (div_nonneg (Rounding.round_nonneg (by positivity)) (Rounding.round_nonneg extent))

theorem Viewed.fits_iff (viewed : Viewed buffer near far out) (positive : 0 < mode)
    (inside : near.toInt ≤ pos.toInt) :
    (∀ undefined, 0 ≤ (translate Single undefined pos buffer (far - near) mode).toInt32 ∧
        (translate Single undefined pos buffer (far - near) mode).toInt32 < buffer.toInt32) ↔
      ShareFits buffer near far mode pos := by
  have extent := viewed.extent
  have size := toInt_toInt32 viewed.small
  rw [ShareFits, Int32.lt_iff_toInt_lt, extent]
  have zero : (0 : Int32).toInt = 0 := by decide
  by_cases filled : out = 0
  · have empty := viewed.extent_eq_zero.mpr filled
    refine iff_of_false (fun fits => ?_) fun share => by omega
    -- the quotient may convert to a number that is negative as an `int`
    obtain ⟨nonneg, _⟩ := fits (2 ^ 31)
    rw [translate, if_pos empty] at nonneg
    exact absurd nonneg (by decide)
  · have bound : buffer.toInt32.toInt.toNat = buffer.toNat := by omega
    have one : ∀ undefined, 0 ≤ (translate Single undefined pos buffer (far - near) mode).toInt32 ∧
        (translate Single undefined pos buffer (far - near) mode).toInt32 < buffer.toInt32 ↔
          share near far mode pos < buffer.toNat := by
      intro undefined
      rw [Display.within_iff (by omega), bound, viewed.translate_single positive inside filled]
      exact toNat_toUInt32_lt_iff (share_nonneg viewed) buffer.toNat_lt
    constructor
    · intro fits
      exact ⟨by omega, (one 0).mp (fits 0)⟩
    · intro share undefined
      exact (one undefined).mpr share.2

end Direction

/-! ### Runs -/

theorem cursor_iff (ints : p.SizesAreInts) {s : Buffered Single Desktop} (framed : Framed p s)
    (event : ClientEvent) : CursorStaysInside p (some s) event ↔ SharesFit (some s) event := by
  cases event with
  | desktop => exact Iff.rfl
  | key => exact Iff.rfl
  | pointer pos buttonMask _ =>
    obtain ⟨wide, high⟩ := framed.mode
    unfold CursorStaysInside SharesFit
    constructor
    · intro stays within accepted
      obtain ⟨outX, outY, horizontal, vertical⟩ := framed.viewed_at (ints _ _ framed.viewport.1) accepted
      obtain ⟨⟨left, _⟩, top, _⟩ := accepted.bounds
      have lands := fun undefined => stays within undefined _ _ (pointerEvent_accepted accepted)
      refine ⟨(horizontal.fits_iff wide left).mp fun undefined => ?_,
        (vertical.fits_iff high top).mp fun undefined => ?_⟩
      · exact (lands (undefined, 0)).1
      · exact (lands (0, undefined)).2
    · intro shares within undefined point s' ok
      obtain ⟨accepted, rfl⟩ := pointerEvent_some ok
      obtain ⟨outX, outY, horizontal, vertical⟩ := framed.viewed_at (ints _ _ framed.viewport.1) accepted
      obtain ⟨⟨left, _⟩, top, _⟩ := accepted.bounds
      obtain ⟨x, y⟩ := shares within accepted
      exact ⟨(horizontal.fits_iff wide left).mpr x undefined.1, (vertical.fits_iff high top).mpr y undefined.2⟩

theorem cursor_stays_along_run (ints : p.SizesAreInts) {q : Queries} (positive : q.Positive)
    {clientWidth clientHeight sourceWidth sourceHeight : UInt32} {device : Input.Device} {d : Desktop}
    {s : Buffered Single Desktop}
    (started : start p q (allocate (.constructed clientWidth clientHeight sourceWidth sourceHeight) device d) =
      .ok true s) (run : List ClientEvent) (events : ∀ event ∈ run, event.Positive) :
    Runs.Along (clientStep p) (CursorStaysInside p) (some s) run ↔
      Runs.Along (clientStep p) SharesFit (some s) run :=
  along_run_iff (fun _ framed event => cursor_iff ints framed event) (fun _ => Iff.rfl)
    (framed_start positive started) events

def startedUpright : Buffered Single Desktop :=
  Outcomes.after (start .working (portrait .rotation0))
    (allocate (.constructed 0 0 0 0) .closed { mLayerId := 0, mInputDevice := .closed })

theorem start_startedUpright : start .working (portrait .rotation0)
    (allocate (.constructed 0 0 0 0) .closed { mLayerId := 0, mInputDevice := .closed }) =
      .ok true startedUpright :=
  Outcomes.ok_of_value (by decide +kernel)

/-- A client asks for a window of half the display's size and points into it. -/
def pointHalved (x y : Int32) : List ClientEvent := [.desktop (.resize 540 960), .pointer ⟨x, y⟩ 0 (0, 0)]

theorem cursor_stays_halved :
    Runs.Along (clientStep .working) (CursorStaysInside .working) (some startedUpright) (pointHalved 200 100) ↔
      Runs.Along (clientStep .working) SharesFit (some startedUpright) (pointHalved 200 100) :=
  cursor_stays_along_run working_ints (portrait_positive .rotation0) start_startedUpright _
    (by simp [pointHalved, ClientEvent.Positive])

theorem cursor_leaves_buffer :
    start .working (portrait .rotation0)
      (allocate (.constructed 0 0 0 0) .closed { mLayerId := 0, mInputDevice := .closed }) =
        .ok true startedUpright ∧
    ¬Runs.Along (clientStep .working) (CursorStaysInside .working) (some startedUpright)
      (pointHalved 300 100) := by
  let halved := Outcomes.after (setScreenLayout .working 540 960) startedUpright
  have lands : Outcomes.value (pointerEvent .working (0, 0) ⟨300, 100⟩ 0) halved =
      some (some ⟨600, 200⟩) := by
    decide +kernel
  have width : halved.pixels.width = 540 := by decide +kernel
  have height : halved.pixels.height = 960 := by decide +kernel
  refine ⟨start_startedUpright, ?_⟩
  rintro ⟨_, stays, _⟩
  have inside : InBuffer halved.pixels ⟨300, 100⟩ := by
    rw [InBuffer, width, height]
    decide
  have landed : InBuffer halved.pixels ⟨600, 200⟩ := stays inside _ _ _ (Outcomes.ok_of_value lands)
  rw [InBuffer, width, height] at landed
  exact absurd landed (by decide)

end VncFlinger.Display
