import VncFlinger.Display.Viewport

/-!
# Where a pointer event lands

The coordinates a client points at, those of the display mode that reach the device, and those
the server is told, in every state after a start.
-/

namespace VncFlinger.Display

variable {p : Platform}

/-- What the machine's `int`s can hold of a buffer's size. `setSize` refuses the rest. -/
def Platform.SizesAreInts (p : Platform) : Prop :=
  ∀ w h, p.setSizeAccepts w h = true → w.toNat < 2 ^ 31 ∧ h.toNat < 2 ^ 31

section Events

variable {F : Type} [Floats F]

theorem pointerEvent_some {undefined : UInt32 × UInt32} {pos point : Point} {buttonMask : Int32}
    {s s' : Buffered F Desktop} (ok : pointerEvent p undefined pos buttonMask s = .ok (some point) s') :
    Accepted s.listener.mDisplayRect pos ∧
      point = ⟨(translated undefined s pos).1.toInt32, (translated undefined s pos).2.toInt32⟩ := by
  rw [pointerEvent_apply] at ok
  split_ifs at ok with accepted
  · cases ok
    exact ⟨accepted, rfl⟩
  · cases ok

theorem pointerEvent_accepted {undefined : UInt32 × UInt32} {pos : Point} {buttonMask : Int32}
    {s : Buffered F Desktop} (accepted : Accepted s.listener.mDisplayRect pos) :
    pointerEvent p undefined pos buttonMask s =
      .ok (some ⟨(translated undefined s pos).1.toInt32, (translated undefined s pos).2.toInt32⟩)
        (pointed p buttonMask (translated undefined s pos) s) := by
  rw [pointerEvent_apply, if_pos accepted]

/-- A property of the events that is exact in framed states is exact along a run after a start. -/
theorem along_run_iff {N C : Option (Buffered F Desktop) → ClientEvent → Prop}
    (exact_event : ∀ s, Framed p s → ∀ event, N (some s) event ↔ C (some s) event)
    (ended : ∀ event, N none event ↔ C none event) {s : Buffered F Desktop} (framed : Framed p s)
    {run : List ClientEvent} (positive : ∀ event ∈ run, event.Positive) :
    Runs.Along (clientStep p) N (some s) run ↔ Runs.Along (clientStep p) C (some s) run := by
  refine Runs.along_iff (I := RunningFramed p) ?_ ?_ ?_
  · intro running same
    cases same
    exact framed
  · intro state event _ framed
    cases state with
    | none => exact ended event
    | some s => exact exact_event s (framed s rfl) event
  · intro state event member framed _
    exact framed_step framed (positive event member)

end Events

theorem Accepted.bounds {r : Rect} {pos : Point} (accepted : Accepted r pos) :
    (r.left.toInt ≤ pos.x.toInt ∧ pos.x.toInt ≤ r.right.toInt) ∧
      r.top.toInt ≤ pos.y.toInt ∧ pos.y.toInt ≤ r.bottom.toInt := by
  unfold Accepted at accepted
  simp only [Int32.lt_iff_toInt_lt] at accepted
  omega

/-- Where a position is accepted, the viewport is centred in both directions. -/
theorem Framed.viewed_at {F : Type} [Floats F] {s : Buffered F Desktop} (framed : Framed p s)
    (small : s.pixels.width.toNat < 2 ^ 31 ∧ s.pixels.height.toNat < 2 ^ 31) {pos : Point}
    (accepted : Accepted s.listener.mDisplayRect pos) :
    ∃ outX outY,
      Viewed s.pixels.width s.listener.mDisplayRect.left s.listener.mDisplayRect.right outX ∧
      Viewed s.pixels.height s.listener.mDisplayRect.top s.listener.mDisplayRect.bottom outY := by
  obtain ⟨⟨outX, horizontal⟩, ⟨outY, vertical⟩ | reversed⟩ := framed.centred small
  · exact ⟨outX, outY, horizontal, vertical⟩
  · obtain ⟨_, top, bottom⟩ := accepted.bounds
    rw [Int32.lt_iff_toInt_lt] at reversed
    omega

theorem within_iff {x : UInt32} {bound : Int32} (nonneg : 0 ≤ bound.toInt) :
    0 ≤ x.toInt32 ∧ x.toInt32 < bound ↔ x.toNat < bound.toInt.toNat := by
  rw [Int32.le_iff_toInt_le, Int32.lt_iff_toInt_lt]
  have zero : (0 : Int32).toInt = 0 := by decide
  have top := bound.toInt_lt
  have word := x.toNat_lt
  rw [toInt_toInt32_eq]
  split <;> omega

section Direction

variable {buffer : UInt32} {near far mode bound pos : Int32} {out : ℕ}

theorem mode_toNat (positive : 0 < mode) : mode.toUInt32.toNat = mode.toInt.toNat := by
  have nonneg : 0 ≤ mode.toInt := Int32.le_iff_toInt_le.mp (Int32.le_of_lt positive)
  have whole := toNat_toUInt32_of_nonneg nonneg
  omega

theorem Viewed.within_iff (viewed : Viewed buffer near far out) (inside : near.toInt ≤ pos.toInt)
    (filled : out ≠ 0) (positive : 0 < mode) (nonneg : 0 ≤ bound.toInt) (undefined : UInt32) :
    0 ≤ (translate ℚ undefined pos buffer (far - near) mode).toInt32 ∧
        (translate ℚ undefined pos buffer (far - near) mode).toInt32 < bound ↔
      beyond near pos * mode.toInt.toNat % 2 ^ 32 < bound.toInt.toNat * out := by
  rw [Display.within_iff nonneg, viewed.translate_exact inside filled, mode_toNat positive]
  exact Nat.div_lt_iff_lt_mul (Nat.pos_of_ne_zero filled)

/-- The far edge is as many pixels beyond the near one as the viewport has, one too many, unless
the product wraps. -/
def MissesEdge (near far mode pos : Int32) : Prop :=
  pos = far → 0 < far - near ∧ 2 ^ 32 ≤ (far - near).toInt * mode.toInt

theorem Viewed.stays_iff (viewed : Viewed buffer near far out) (positive : 0 < mode)
    (inside : near.toInt ≤ pos.toInt) (before : pos.toInt ≤ far.toInt) (undefined : UInt32) :
    (far - near ≠ 0 ∧ 0 ≤ (translate ℚ undefined pos buffer (far - near) mode).toInt32 ∧
        (translate ℚ undefined pos buffer (far - near) mode).toInt32 < mode) ↔
      MissesEdge near far mode pos := by
  have extent := viewed.extent
  have edge := viewed.beyond_eq inside
  have bound := viewed.beyond_le inside before
  have wide : 0 < mode.toInt := Int32.lt_iff_toInt_lt.mp positive
  rw [ne_eq, viewed.extent_eq_zero, MissesEdge, viewed.extent_pos, extent]
  by_cases filled : out = 0
  · have here : pos = far := edge.mp (by omega)
    refine iff_of_false (fun stays => stays.1 filled) fun misses => ?_
    have size := (misses here).1
    omega
  · rw [viewed.within_iff inside filled positive (Int.le_of_lt wide)]
    have modeNat : (mode.toInt.toNat : ℤ) = mode.toInt := Int.toNat_of_nonneg (Int.le_of_lt wide)
    by_cases here : pos = far
    · have beyond := edge.mpr here
      have product : (out : ℤ) * mode.toInt = ((out * mode.toInt.toNat : ℕ) : ℤ) := by
        rw [Nat.cast_mul, modeNat]
      rw [beyond, product, Nat.mul_comm mode.toInt.toNat out]
      by_cases wraps : 2 ^ 32 ≤ out * mode.toInt.toNat
      · have less : out * mode.toInt.toNat % 2 ^ 32 < 2 ^ 32 := Nat.mod_lt _ (by decide)
        refine iff_of_true ⟨filled, by omega⟩ fun _ => ⟨by omega, by omega⟩
      · rw [Nat.mod_eq_of_lt (by omega)]
        refine iff_of_false (fun stays => by omega) fun misses => ?_
        have size := (misses here).2
        omega
    · have strict : beyond near pos < out := by
        have differs := mt edge.mp here
        omega
      refine iff_of_true ⟨filled, ?_⟩ fun same => absurd same here
      calc beyond near pos * mode.toInt.toNat % 2 ^ 32
          ≤ beyond near pos * mode.toInt.toNat := Nat.mod_le _ _
        _ < out * mode.toInt.toNat := Nat.mul_lt_mul_of_pos_right strict (by omega)
        _ = mode.toInt.toNat * out := Nat.mul_comm _ _

end Direction

/-! ### The display's coordinates -/

/-- An event that reaches the device is divided by no empty viewport, and lands on the display. -/
def StaysOnDisplay (p : Platform) : Option (Buffered ℚ Desktop) → ClientEvent → Prop
  | some s, .pointer pos buttonMask undefined => ∀ point s',
      pointerEvent p undefined pos buttonMask s = .ok (some point) s' →
        (s.listener.mDisplayRect.getWidth ≠ 0 ∧ 0 ≤ point.x ∧ point.x < s.listener.mDisplayMode.width) ∧
        s.listener.mDisplayRect.getHeight ≠ 0 ∧ 0 ≤ point.y ∧ point.y < s.listener.mDisplayMode.height
  | _, _ => True

/-- A position in the viewport is on neither far edge. -/
def MissesFarEdges : Option (Buffered ℚ Desktop) → ClientEvent → Prop
  | some s, .pointer pos _ _ => Accepted s.listener.mDisplayRect pos →
      MissesEdge s.listener.mDisplayRect.left s.listener.mDisplayRect.right s.listener.mDisplayMode.width pos.x ∧
      MissesEdge s.listener.mDisplayRect.top s.listener.mDisplayRect.bottom s.listener.mDisplayMode.height pos.y
  | _, _ => True

theorem stays_iff (ints : p.SizesAreInts) {s : Buffered ℚ Desktop} (framed : Framed p s) (event : ClientEvent) :
    StaysOnDisplay p (some s) event ↔ MissesFarEdges (some s) event := by
  cases event with
  | desktop => exact Iff.rfl
  | key => exact Iff.rfl
  | pointer pos buttonMask undefined =>
    obtain ⟨outX, outY, horizontal, vertical⟩ := framed.viewed (ints _ _ framed.viewport.1)
    obtain ⟨wide, high⟩ := framed.mode
    unfold StaysOnDisplay MissesFarEdges
    constructor
    · intro stays accepted
      obtain ⟨⟨left, right⟩, top, bottom⟩ := accepted.bounds
      obtain ⟨x, y⟩ := stays _ _ (pointerEvent_accepted accepted)
      exact ⟨(horizontal.stays_iff wide left right undefined.1).mp x,
        (vertical.stays_iff high top bottom undefined.2).mp y⟩
    · intro misses point s' ok
      obtain ⟨accepted, rfl⟩ := pointerEvent_some ok
      obtain ⟨⟨left, right⟩, top, bottom⟩ := accepted.bounds
      obtain ⟨x, y⟩ := misses accepted
      exact ⟨(horizontal.stays_iff wide left right undefined.1).mpr x,
        (vertical.stays_iff high top bottom undefined.2).mpr y⟩

theorem pointer_stays_along_run (ints : p.SizesAreInts) {q : Queries} (positive : q.Positive)
    {clientWidth clientHeight sourceWidth sourceHeight : UInt32} {device : Input.Device} {d : Desktop}
    {s : Buffered ℚ Desktop}
    (started : start p q (allocate (.constructed clientWidth clientHeight sourceWidth sourceHeight) device d) =
      .ok true s) (run : List ClientEvent) (events : ∀ event ∈ run, event.Positive) :
    Runs.Along (clientStep p) (StaysOnDisplay p) (some s) run ↔
      Runs.Along (clientStep p) MissesFarEdges (some s) run :=
  along_run_iff (fun _ framed event => stays_iff ints framed event) (fun _ => Iff.rfl)
    (framed_start positive started) events

/-- Sizes are what the machine's integers hold, and everything outside works. -/
def Platform.working : Platform :=
  { Platform.calm with setSizeAccepts := fun w h => decide (w.toNat < 2 ^ 31 ∧ h.toNat < 2 ^ 31) }

theorem working_ints : Platform.working.SizesAreInts := fun _ _ accepted => of_decide_eq_true accepted

def upright : Buffered ℚ Desktop :=
  Outcomes.after (start .working (portrait .rotation0))
    (allocate (.constructed 0 0 0 0) .closed { mLayerId := 0, mInputDevice := .closed })

theorem start_upright : start .working (portrait .rotation0)
    (allocate (.constructed 0 0 0 0) .closed { mLayerId := 0, mInputDevice := .closed }) = .ok true upright :=
  Outcomes.ok_of_value (by decide +kernel)

/-- A window twice as wide as the letterboxed display needs, and a position in it. -/
def pointAt (x y : Int32) : List ClientEvent := [.desktop (.resize 2000 960), .pointer ⟨x, y⟩ 0 (0, 0)]

theorem pointer_stays_upright :
    Runs.Along (clientStep .working) (StaysOnDisplay .working) (some upright) (pointAt 1000 500) ↔
      Runs.Along (clientStep .working) MissesFarEdges (some upright) (pointAt 1000 500) :=
  pointer_stays_along_run working_ints (portrait_positive .rotation0) start_upright _
    (by simp [pointAt, ClientEvent.Positive])

/-- The viewport's right edge is a position in it, and a window of one pixel has no viewport. -/
theorem far_edge_leaves_display :
    start .working (portrait .rotation0)
      (allocate (.constructed 0 0 0 0) .closed { mLayerId := 0, mInputDevice := .closed }) = .ok true upright ∧
    ¬Runs.Along (clientStep .working) (StaysOnDisplay .working) (some upright) (pointAt 1270 500) ∧
    ¬Runs.Along (clientStep .working) (StaysOnDisplay .working) (some upright)
      [.desktop (.resize 1 1), .pointer ⟨0, 0⟩ 0 (0, 0)] := by
  have wide : Outcomes.value (pointerEvent .working (0, 0) ⟨1270, 500⟩ 0)
      (Outcomes.after (setScreenLayout .working 2000 960) upright) = some (some ⟨1080, 1000⟩) := by
    decide +kernel
  have mode : (Outcomes.after (setScreenLayout .working 2000 960) upright).listener.mDisplayMode =
      ⟨1080, 1920⟩ := by
    decide +kernel
  have narrow : Outcomes.value (pointerEvent .working (0, 0) ⟨0, 0⟩ 0)
      (Outcomes.after (setScreenLayout .working 1 1) upright) = some (some ⟨0, 0⟩) := by
    decide +kernel
  have empty : (Outcomes.after (setScreenLayout .working 1 1) upright).listener.mDisplayRect.getWidth = 0 := by
    decide +kernel
  refine ⟨start_upright, ?_, ?_⟩
  · rintro ⟨_, stays, _⟩
    obtain ⟨⟨_, _, x⟩, _⟩ := stays _ _ (Outcomes.ok_of_value wide)
    rw [mode] at x
    exact absurd x (by decide)
  · rintro ⟨_, stays, _⟩
    obtain ⟨⟨filled, _⟩, _⟩ := stays _ _ (Outcomes.ok_of_value narrow)
    exact filled empty

/-! ### The exact mapping -/

/-- One direction computed without a wrap: the offset is the near edge, the distance beyond it and
the product are whole, and the position lands on the floor of the quotient. -/
structure Exact (buffer : UInt32) (near far mode pos landed : Int32) : Prop where
  offset : (((buffer.toInt32 - (far - near)) / 2).toUInt32.toNat : ℤ) = near.toInt
  inside : 0 ≤ pos.toInt - near.toInt
  beyond : ((pos.toUInt32 - ((buffer.toInt32 - (far - near)) / 2).toUInt32).toNat : ℤ) =
    pos.toInt - near.toInt
  product : (((pos.toUInt32 - ((buffer.toInt32 - (far - near)) / 2).toUInt32) * mode.toUInt32).toNat : ℤ) =
    (pos.toInt - near.toInt) * mode.toInt
  landed : landed.toInt = (pos.toInt - near.toInt) * mode.toInt / (far.toInt - near.toInt)

section Mapping

variable {F : Type} [Floats F] {n bound : ℕ}

theorem Viewed.exact (divides : Divides F bound) (room : n * n < bound ∧ bound ≤ 2 ^ 32) {buffer : UInt32}
    {near far mode pos : Int32} {out : ℕ} (viewed : Viewed buffer near far out)
    (positive : 0 < mode) (inside : near.toInt ≤ pos.toInt) (before : pos.toInt ≤ far.toInt)
    (filled : out ≠ 0) (sides : buffer.toNat ≤ n ∧ mode.toInt ≤ n) (undefined : UInt32) :
    Exact buffer near far mode pos (translate F undefined pos buffer (far - near) mode).toInt32 := by
  have wide : 0 < mode.toInt := Int32.lt_iff_toInt_lt.mp positive
  have top := mode.toInt_lt
  have fits := viewed.placed.1
  have right := viewed.placed.2.2
  have farthest := viewed.beyond_le inside before
  have nonneg := viewed.near_nonneg
  have distance := viewed.beyond_toNat inside
  have whole : (beyond near pos : ℤ) = pos.toInt - near.toInt := by unfold beyond; omega
  have modeNat := mode_toNat positive
  have product : beyond near pos * mode.toInt.toNat ≤ n * n := Nat.mul_le_mul (by omega) (by omega)
  have square : n ≤ n * n := Nat.le_mul_self n
  have exact_product : ((beyond near pos * mode.toInt.toNat : ℕ) : ℤ) =
      (pos.toInt - near.toInt) * mode.toInt := by
    rw [Nat.cast_mul, whole, Int.toNat_of_nonneg (Int.le_of_lt wide)]
  have unwrapped : beyond near pos * mode.toUInt32.toNat % 2 ^ 32 = beyond near pos * mode.toInt.toNat := by
    rw [modeNat]
    exact Nat.mod_eq_of_lt (by omega)
  have landed := viewed.translate_toNat divides inside filled (by omega) (by rw [unwrapped]; omega) undefined
  rw [unwrapped] at landed
  have small : (translate F undefined pos buffer (far - near) mode).toNat ≤ mode.toInt.toNat := by
    rw [landed]
    exact Nat.div_le_of_le_mul (Nat.mul_le_mul_right _ farthest)
  refine ⟨?_, by omega, by rw [distance, whole], ?_, ?_⟩
  · rw [viewed.offset]
    exact toNat_toUInt32_of_nonneg nonneg
  · rw [UInt32.toNat_mul, distance, unwrapped, exact_product]
  · have extent : far.toInt - near.toInt = out := by omega
    rw [toInt_toInt32 (by omega), landed, extent, ← exact_product, Int.natCast_ediv]

/-- The mapping of accepted positions: exact, monotone in each direction, from corner to corner. -/
structure MapsExactly (p : Platform) (s : Buffered F Desktop) : Prop where
  exact : ∀ undefined pos buttonMask, Accepted s.listener.mDisplayRect pos →
    ∃ point s', pointerEvent p undefined pos buttonMask s = .ok (some point) s' ∧
      Exact s.pixels.width s.listener.mDisplayRect.left s.listener.mDisplayRect.right
        s.listener.mDisplayMode.width pos.x point.x ∧
      Exact s.pixels.height s.listener.mDisplayRect.top s.listener.mDisplayRect.bottom
        s.listener.mDisplayMode.height pos.y point.y
  monotone : ∀ undefined pos buttonMask point s' undefined' pos' buttonMask' point' s'',
    pointerEvent p undefined pos buttonMask s = .ok (some point) s' →
    pointerEvent p undefined' pos' buttonMask' s = .ok (some point') s'' →
      (pos.x ≤ pos'.x → point.x ≤ point'.x) ∧ (pos.y ≤ pos'.y → point.y ≤ point'.y)
  corner : ∀ undefined buttonMask, ∃ s', pointerEvent p undefined
    ⟨s.listener.mDisplayRect.left, s.listener.mDisplayRect.top⟩ buttonMask s = .ok (some ⟨0, 0⟩) s'

/-- The mode and the buffer are no longer than this in either direction. -/
structure SidesWithin (n : ℕ) (s : Buffered F Desktop) : Prop where
  modeWidth : s.listener.mDisplayMode.width.toInt ≤ n
  modeHeight : s.listener.mDisplayMode.height.toInt ≤ n
  width : s.pixels.width.toNat ≤ n
  height : s.pixels.height.toNat ≤ n

theorem Exact.mono {buffer : UInt32} {near far mode pos landed pos' landed' : Int32}
    (first : Exact buffer near far mode pos landed) (second : Exact buffer near far mode pos' landed')
    (positive : 0 < mode) (filled : near.toInt < far.toInt) (order : pos ≤ pos') : landed ≤ landed' := by
  have wide : 0 < mode.toInt := Int32.lt_iff_toInt_lt.mp positive
  rw [Int32.le_iff_toInt_le] at order ⊢
  rw [first.landed, second.landed]
  refine Int.ediv_le_ediv (by omega) ?_
  exact Int.mul_le_mul_of_nonneg_right (by omega) (Int.le_of_lt wide)

theorem Exact.corner {buffer : UInt32} {near far mode landed : Int32}
    (exact : Exact buffer near far mode near landed) : landed = 0 := by
  have zero : (0 : Int32).toInt = 0 := by decide
  rw [← Int32.toInt_inj, exact.landed, zero, Int.sub_self, Int.zero_mul, Int.zero_ediv]

/-- A viewport that is not empty, centred in both directions. -/
theorem mapsExactly_viewed (divides : Divides F bound) (room : n * n < bound ∧ bound ≤ 2 ^ 32)
    {s : Buffered F Desktop} {outX outY : ℕ}
    (horizontal : Viewed s.pixels.width s.listener.mDisplayRect.left s.listener.mDisplayRect.right outX)
    (vertical : Viewed s.pixels.height s.listener.mDisplayRect.top s.listener.mDisplayRect.bottom outY)
    (positive : s.listener.mDisplayMode.Positive) (sides : SidesWithin n s)
    (filled : 0 < s.listener.mDisplayRect.getWidth ∧ 0 < s.listener.mDisplayRect.getHeight) : MapsExactly p s := by
  obtain ⟨wide, high⟩ := positive
  have filledX := horizontal.extent_pos.mp filled.1
  have filledY := vertical.extent_pos.mp filled.2
  have right := horizontal.placed.2.2
  have bottom := vertical.placed.2.2
  have exact : ∀ undefined pos, Accepted s.listener.mDisplayRect pos →
      Exact s.pixels.width s.listener.mDisplayRect.left s.listener.mDisplayRect.right
        s.listener.mDisplayMode.width pos.x (translated undefined s pos).1.toInt32 ∧
      Exact s.pixels.height s.listener.mDisplayRect.top s.listener.mDisplayRect.bottom
        s.listener.mDisplayMode.height pos.y (translated undefined s pos).2.toInt32 := by
    intro undefined pos accepted
    obtain ⟨⟨left, right⟩, top, bottom⟩ := accepted.bounds
    exact ⟨horizontal.exact divides room wide left right (by omega) ⟨sides.width, sides.modeWidth⟩ undefined.1,
      vertical.exact divides room high top bottom (by omega) ⟨sides.height, sides.modeHeight⟩ undefined.2⟩
  refine ⟨?_, ?_, ?_⟩
  · intro undefined pos buttonMask accepted
    exact ⟨_, _, pointerEvent_accepted accepted, exact undefined pos accepted⟩
  · intro undefined pos buttonMask point s' undefined' pos' buttonMask' point' s'' first second
    obtain ⟨accepted, rfl⟩ := pointerEvent_some first
    obtain ⟨accepted', rfl⟩ := pointerEvent_some second
    obtain ⟨x, y⟩ := exact undefined pos accepted
    obtain ⟨x', y'⟩ := exact undefined' pos' accepted'
    exact ⟨x.mono x' wide (by omega), y.mono y' high (by omega)⟩
  · intro undefined buttonMask
    have accepted : Accepted s.listener.mDisplayRect ⟨s.listener.mDisplayRect.left, s.listener.mDisplayRect.top⟩ := by
      unfold Accepted
      simp only [Int32.lt_iff_toInt_lt]
      omega
    obtain ⟨x, y⟩ := exact undefined _ accepted
    have run : pointerEvent p undefined _ buttonMask s = _ := pointerEvent_accepted accepted
    rw [x.corner, y.corner] at run
    exact ⟨_, run⟩

end Mapping

theorem Framed.mapsExactly {s : Buffered ℚ Desktop} (framed : Framed p s) (sides : SidesWithin 65535 s)
    (filled : 0 < s.listener.mDisplayRect.getWidth ∧ 0 < s.listener.mDisplayRect.getHeight) : MapsExactly p s := by
  have width := sides.width
  have height := sides.height
  obtain ⟨outX, outY, horizontal, vertical⟩ := framed.viewed ⟨by omega, by omega⟩
  exact mapsExactly_viewed divides_exact (by decide) horizontal vertical framed.mode sides filled

theorem maps_exactly_after_run {q : Queries} (positive : q.Positive)
    {clientWidth clientHeight sourceWidth sourceHeight : UInt32} {device : Input.Device} {d : Desktop}
    {s s' : Buffered ℚ Desktop}
    (started : start p q (allocate (.constructed clientWidth clientHeight sourceWidth sourceHeight) device d) =
      .ok true s) (run : List ClientEvent) (events : ∀ event ∈ run, event.Positive)
    (reached : run.foldl (clientStep p) (some s) = some s') (sides : SidesWithin 65535 s')
    (filled : 0 < s'.listener.mDisplayRect.getWidth ∧ 0 < s'.listener.mDisplayRect.getHeight) :
    MapsExactly p s' := by
  have framed : RunningFramed p (some s) := by
    intro running same
    cases same
    exact framed_start positive started
  exact (framed_run framed run events s' reached).mapsExactly sides filled

/-- The state after a client has asked for a window of half the display's size. -/
def halved : Buffered ℚ Desktop := Outcomes.after (setScreenLayout .working 540 960) upright

theorem maps_exactly_halved : MapsExactly .working halved :=
  maps_exactly_after_run (portrait_positive .rotation0) start_upright
    [.desktop (.resize 540 960)] (by simp [ClientEvent.Positive]) rfl
    ⟨by decide +kernel, by decide +kernel, by decide +kernel, by decide +kernel⟩ (by decide +kernel)

end VncFlinger.Display
