import VncFlinger.Library.Scaling
import VncFlinger.Display.Cursor

/-!
# The points a client can reach

A viewport smaller than the display leaves out some of its points, in each direction on its own.
-/

namespace VncFlinger.Display

variable {F : Type} [Floats F] {p : Platform} {s : Buffered F Desktop} {n bound : ℕ}

def OnDisplay (s : Buffered F Desktop) (point : Point) : Prop :=
  (0 ≤ point.x ∧ point.x < s.listener.mDisplayMode.width) ∧
    0 ≤ point.y ∧ point.y < s.listener.mDisplayMode.height

/-- There is a position that the desktop takes to this point. -/
def Reaches (p : Platform) (s : Buffered F Desktop) (point : Point) : Prop :=
  ∃ pos, ∀ undefined buttonMask, ∃ s', pointerEvent p undefined pos buttonMask s = .ok (some point) s'

/-- One direction: a position between the edges lands here. -/
def LandsAt (near far mode landed : Int32) : Prop :=
  ∃ pos : Int32, (near.toInt ≤ pos.toInt ∧ pos.toInt ≤ far.toInt) ∧
    landed.toInt = (pos.toInt - near.toInt) * mode.toInt / (far.toInt - near.toInt)

/-! ### One direction -/

section Direction

variable {buffer : UInt32} {near far mode landed : Int32} {out : ℕ}

theorem Viewed.landsAt_iff (viewed : Viewed buffer near far out) (positive : 0 < mode) :
    LandsAt near far mode landed ↔ ∃ k ≤ out, landed.toInt = Scaling.scale out mode.toInt.toNat k := by
  have wide : 0 < mode.toInt := Int32.lt_iff_toInt_lt.mp positive
  have modeNat : (mode.toInt.toNat : ℤ) = mode.toInt := Int.toNat_of_nonneg (Int.le_of_lt wide)
  obtain ⟨fits, left, right⟩ := viewed.placed
  have small := viewed.small
  have scaled : ∀ k : ℕ, ((Scaling.scale out mode.toInt.toNat k : ℕ) : ℤ) = k * mode.toInt / out := by
    intro k
    rw [Scaling.scale, Int.natCast_ediv, Nat.cast_mul, modeNat]
  have extent : far.toInt - near.toInt = out := by omega
  constructor
  · rintro ⟨pos, ⟨after, before⟩, lands⟩
    have distance : ((pos.toInt - near.toInt).toNat : ℤ) = pos.toInt - near.toInt := Int.toNat_of_nonneg (by omega)
    refine ⟨(pos.toInt - near.toInt).toNat, by omega, ?_⟩
    rw [scaled, distance, lands, extent]
  · rintro ⟨k, most, lands⟩
    have here : (Int32.ofInt (near.toInt + k)).toInt = near.toInt + k :=
      Int32.toInt_ofInt_of_le (by omega) (by omega)
    refine ⟨Int32.ofInt (near.toInt + k), by omega, ?_⟩
    have distance : near.toInt + k - near.toInt = k := by omega
    rw [lands, scaled, here, extent, distance]

/-- Every coordinate of the display is landed on exactly if the viewport is as long as the display. -/
theorem Viewed.onto_iff (viewed : Viewed buffer near far out) (positive : 0 < mode) (filled : 0 < out) :
    (∀ landed : Int32, 0 ≤ landed → landed < mode → LandsAt near far mode landed) ↔
      mode.toInt ≤ far.toInt - near.toInt := by
  have wide : 0 < mode.toInt := Int32.lt_iff_toInt_lt.mp positive
  have zero : (0 : Int32).toInt = 0 := by decide
  have top := mode.toInt_lt
  have right := viewed.placed.2.2
  have extent : far.toInt - near.toInt = out := by omega
  rw [extent]
  have onto := Scaling.onto_iff (n := out) (m := mode.toInt.toNat) filled
  constructor
  · intro all
    have enough : mode.toInt.toNat ≤ out := by
      refine onto.mp fun t below => ?_
      have here : (Int32.ofInt t).toInt = t := Int32.toInt_ofInt_of_le (by omega) (by omega)
      have lands := all (Int32.ofInt t) (by rw [Int32.le_iff_toInt_le]; omega) (by rw [Int32.lt_iff_toInt_lt]; omega)
      obtain ⟨k, most, met⟩ := (viewed.landsAt_iff positive).mp lands
      exact ⟨k, most, by omega⟩
    omega
  · intro enough landed nonneg below
    rw [Int32.le_iff_toInt_le] at nonneg
    rw [Int32.lt_iff_toInt_lt] at below
    obtain ⟨k, most, met⟩ := onto.mpr (by omega) landed.toInt.toNat (by omega)
    exact (viewed.landsAt_iff positive).mpr ⟨k, most, by omega⟩

end Direction

/-! ### Both directions -/

theorem reaches_iff (maps : MapsExactly p s) (point : Point) : Reaches p s point ↔
    LandsAt s.listener.mDisplayRect.left s.listener.mDisplayRect.right s.listener.mDisplayMode.width point.x ∧
      LandsAt s.listener.mDisplayRect.top s.listener.mDisplayRect.bottom s.listener.mDisplayMode.height point.y := by
  constructor
  · rintro ⟨pos, reached⟩
    obtain ⟨_, ok⟩ := reached (0, 0) 0
    obtain ⟨accepted, _⟩ := pointerEvent_some ok
    obtain ⟨point', _, ok', x, y⟩ := maps.exact (0, 0) pos 0 accepted
    rw [ok] at ok'
    cases ok'
    obtain ⟨horizontal, vertical⟩ := accepted.bounds
    exact ⟨⟨pos.x, horizontal, x.landed⟩, pos.y, vertical, y.landed⟩
  · rintro ⟨⟨x, ⟨left, right⟩, landsX⟩, y, ⟨top, bottom⟩, landsY⟩
    have accepted : Accepted s.listener.mDisplayRect ⟨x, y⟩ := by
      unfold Accepted
      simp only [Int32.lt_iff_toInt_lt]
      omega
    refine ⟨⟨x, y⟩, fun undefined buttonMask => ?_⟩
    obtain ⟨point', s', ok, exactX, exactY⟩ := maps.exact undefined ⟨x, y⟩ buttonMask accepted
    have same : point' = point := by
      obtain ⟨x', y'⟩ := point'
      obtain ⟨x'', y''⟩ := point
      rw [Point.mk.injEq, ← Int32.toInt_inj, ← Int32.toInt_inj, exactX.landed, exactY.landed, landsX, landsY]
      exact ⟨rfl, rfl⟩
    rw [same] at ok
    exact ⟨s', ok⟩

/-- A point is only reached through a viewport that is not empty, where no quotient is undefined. -/
theorem Reaches.divided {point : Point} (reaches : Reaches p s point) :
    s.listener.mDisplayRect.getWidth ≠ 0 ∧ s.listener.mDisplayRect.getHeight ≠ 0 := by
  obtain ⟨pos, reached⟩ := reaches
  obtain ⟨_, first⟩ := reached (0, 0) 0
  obtain ⟨_, second⟩ := reached (1, 1) 0
  obtain ⟨_, here⟩ := pointerEvent_some first
  obtain ⟨_, there⟩ := pointerEvent_some second
  obtain ⟨x, y⟩ := Point.mk.inj (here.symm.trans there)
  simp only [translated] at x y
  constructor
  · intro empty
    rw [translate_empty empty, translate_empty empty] at x
    exact absurd x (by decide)
  · intro empty
    rw [translate_empty empty, translate_empty empty] at y
    exact absurd y (by decide)

/-- Where some point is reached, the viewport is centred in both directions and not empty. -/
theorem Framed.viewed_reached (framed : Framed p s)
    (small : s.pixels.width.toNat < 2 ^ 31 ∧ s.pixels.height.toNat < 2 ^ 31) {point : Point}
    (reaches : Reaches p s point) : ∃ outX outY, (0 < outX ∧ 0 < outY) ∧
      Viewed s.pixels.width s.listener.mDisplayRect.left s.listener.mDisplayRect.right outX ∧
      Viewed s.pixels.height s.listener.mDisplayRect.top s.listener.mDisplayRect.bottom outY := by
  obtain ⟨divided, divided'⟩ := reaches.divided
  obtain ⟨pos, reached⟩ := reaches
  obtain ⟨_, ok⟩ := reached (0, 0) 0
  obtain ⟨accepted, _⟩ := pointerEvent_some ok
  obtain ⟨outX, outY, horizontal, vertical⟩ := framed.viewed_at small accepted
  refine ⟨outX, outY, ⟨?_, ?_⟩, horizontal, vertical⟩
  · exact Nat.pos_of_ne_zero (mt horizontal.extent_eq_zero.mpr divided)
  · exact Nat.pos_of_ne_zero (mt vertical.extent_eq_zero.mpr divided')

/-- The viewport is nowhere shorter than the display. -/
def Unshrunk (r : Rect) (mode : Size) : Prop :=
  mode.width.toInt ≤ r.right.toInt - r.left.toInt ∧ mode.height.toInt ≤ r.bottom.toInt - r.top.toInt

theorem reaches_all_iff_viewed (divides : Divides F bound) (room : n * n < bound ∧ bound ≤ 2 ^ 32)
    {outX outY : ℕ}
    (horizontal : Viewed s.pixels.width s.listener.mDisplayRect.left s.listener.mDisplayRect.right outX)
    (vertical : Viewed s.pixels.height s.listener.mDisplayRect.top s.listener.mDisplayRect.bottom outY)
    (filled : 0 < outX ∧ 0 < outY) (positive : s.listener.mDisplayMode.Positive) (sides : SidesWithin n s) :
    (∀ point, OnDisplay s point → Reaches p s point) ↔
      Unshrunk s.listener.mDisplayRect s.listener.mDisplayMode := by
  have maps := mapsExactly_viewed (p := p) divides room horizontal vertical positive sides
    ⟨horizontal.extent_pos.mpr filled.1, vertical.extent_pos.mpr filled.2⟩
  obtain ⟨wide, high⟩ := positive
  rw [Unshrunk, ← horizontal.onto_iff wide filled.1, ← vertical.onto_iff high filled.2]
  constructor
  · intro all
    -- the other coordinate is 0, which is always on the display
    refine ⟨fun x nonneg below => ?_, fun y nonneg below => ?_⟩
    · exact ((reaches_iff maps ⟨x, 0⟩).mp (all ⟨x, 0⟩ ⟨⟨nonneg, below⟩, Int32.le_refl 0, high⟩)).1
    · exact ((reaches_iff maps ⟨0, y⟩).mp (all ⟨0, y⟩ ⟨⟨Int32.le_refl 0, wide⟩, nonneg, below⟩)).2
  · rintro ⟨x, y⟩ point ⟨onX, onY⟩
    exact (reaches_iff maps point).mpr ⟨x _ onX.1 onX.2, y _ onY.1 onY.2⟩

theorem Framed.reaches_all_iff (divides : Divides F bound) (room : n * n < bound ∧ bound ≤ 2 ^ 32)
    (framed : Framed p s) (sides : SidesWithin n s) (short : n < 2 ^ 31) :
    (∀ point, OnDisplay s point → Reaches p s point) ↔
      Unshrunk s.listener.mDisplayRect s.listener.mDisplayMode := by
  have width := sides.width
  have height := sides.height
  have small : s.pixels.width.toNat < 2 ^ 31 ∧ s.pixels.height.toNat < 2 ^ 31 := ⟨by omega, by omega⟩
  obtain ⟨wide, high⟩ := framed.mode
  constructor
  · intro all
    obtain ⟨outX, outY, filled, horizontal, vertical⟩ :=
      framed.viewed_reached small (all ⟨0, 0⟩ ⟨⟨Int32.le_refl 0, wide⟩, Int32.le_refl 0, high⟩)
    exact (reaches_all_iff_viewed divides room horizontal vertical filled framed.mode sides).mp all
  · intro unshrunk
    rw [Int32.lt_iff_toInt_lt] at wide high
    have zero : (0 : Int32).toInt = 0 := by decide
    obtain ⟨right, bottom⟩ := unshrunk
    obtain ⟨⟨outX, horizontal⟩, ⟨outY, vertical⟩ | reversed⟩ := framed.centred small
    · have across := horizontal.placed.2.2
      have down := vertical.placed.2.2
      exact (reaches_all_iff_viewed divides room horizontal vertical ⟨by omega, by omega⟩ framed.mode sides).mpr
        ⟨right, bottom⟩
    · rw [Int32.lt_iff_toInt_lt] at reversed
      omega

/-- In every state of a run whose sides are below 4096, a client can point at the whole display exactly
if the viewport is not smaller than the display. -/
theorem whole_display_reached_iff {q : Queries} (positive : q.Positive)
    {clientWidth clientHeight sourceWidth sourceHeight : UInt32} {device : Input.Device} {d : Desktop}
    {s s' : Buffered Single Desktop}
    (started : start p q (allocate (.constructed clientWidth clientHeight sourceWidth sourceHeight) device d) =
      .ok true s) (run : List ClientEvent) (events : ∀ event ∈ run, event.Positive)
    (reached : run.foldl (clientStep p) (some s) = some s') (sides : SidesWithin 4095 s') :
    (∀ point, OnDisplay s' point → Reaches p s' point) ↔
      Unshrunk s'.listener.mDisplayRect s'.listener.mDisplayMode := by
  have framed : RunningFramed p (some s) := by
    intro running same
    cases same
    exact framed_start positive started
  exact (framed_run framed run events s' reached).reaches_all_iff Single.divides (by decide) sides (by decide)

def startedHalved : Buffered Single Desktop := Outcomes.after (setScreenLayout .working 540 960) startedUpright

theorem halved_display_not_reached :
    (∀ point, OnDisplay startedHalved point → Reaches .working startedHalved point) ↔
      Unshrunk startedHalved.listener.mDisplayRect startedHalved.listener.mDisplayMode :=
  whole_display_reached_iff (portrait_positive .rotation0) start_startedUpright
    [.desktop (.resize 540 960)] (by simp [ClientEvent.Positive]) rfl
    ⟨by decide +kernel, by decide +kernel, by decide +kernel, by decide +kernel⟩

end VncFlinger.Display
