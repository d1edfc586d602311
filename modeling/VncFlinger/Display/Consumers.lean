import VncFlinger.Library.Runs
import VncFlinger.Display.Single
import VncFlinger.Display.Desktop
import VncFlinger.Display.Endings

/-!
# The consumers of the display geometry

The virtual display and the input device are rebuilt when the pixel buffer announces a size, and
only then. A report that changes the geometry without changing that size leaves them behind.
-/

namespace VncFlinger.Display

variable {F : Type} [Floats F]

/-- The virtual display and the input range were made for this mode and orientation. -/
structure MadeFor (mode : Size) (state : Rotation) (d : Desktop) : Prop where
  display : ∃ vd projection, d.mVirtualDisplay = some vd ∧ vd.projection = some projection ∧
    vd.mSourceRect = sourceRect mode state ∧ projection.orientation = state
  range : d.mInputDevice.useRelativeInput = false →
    d.mInputDevice.mUserDev.absmaxX = mode.width ∧ d.mInputDevice.mUserDev.absmaxY = mode.height

def ConsumersAgree (d : Desktop) : Prop := MadeFor d.mDisplayMode d.mDisplayState d

inductive DesktopEvent where
  | update (q : Queries)
  | resize (reqWidth reqHeight : Int32)
  | props (props : DisplayProps)
  deriving DecidableEq, Repr

/-- An exception that leaves `updateDisplayInfo` ends the server loop. One that leaves
`setScreenLayout` closes the connection that asked for the layout. -/
def desktopStep (p : Platform) : Option (Buffered F Desktop) → DesktopEvent → Option (Buffered F Desktop)
  | none, _ => none
  | some s, .update q =>
    match updateDisplayInfo p q false s with
    | .ok _ s' => some s'
    | .error _ _ => none
  | some s, .resize reqWidth reqHeight => some (Outcomes.after (setScreenLayout p reqWidth reqHeight) s)
  | some s, .props props => some { s with listener := setDisplayProps props s.listener }

def AgreesOnReturn (p : Platform) : Option (Buffered F Desktop) → DesktopEvent → Prop
  | some s, .update q => ∀ status s', updateDisplayInfo p q false s = .ok status s' → ConsumersAgree s'.listener
  | _, _ => True

/-- What an update stores before it tells the pixel buffer. -/
inductive Stored where
  | nothing
  | modeOnly (mode : Size)
  | both (mode : Size) (state : Rotation)
  deriving DecidableEq, Repr

def stored (q : Queries) (d : Desktop) : Stored :=
  if d.mLayerId = 0 then
    match q.displayToken, q.activeDisplayMode, q.displayState with
    | true, some mode, some state => .both mode state
    | true, some mode, none => .modeOnly mode
    | _, _, _ => .nothing
  else if 0 < d.width ∧ 0 < d.height ∧ -1 < d.rotation then
    .both ⟨d.width, d.height⟩ (toRotation d.rotation)
  else .nothing

/-- A report repeats the stored geometry, turns the buffer or resizes it. A report without an
orientation repeats the stored mode. -/
def Propagates (p : Platform) : Option (Buffered F Desktop) → DesktopEvent → Prop
  | some s, .update q =>
    match stored q s.listener with
    | .nothing => True
    | .modeOnly mode => mode = s.listener.mDisplayMode
    | .both mode state =>
      mode = s.listener.mDisplayMode ∧ state = s.listener.mDisplayState ∨
        isDisplayRotated state ≠ s.pixels.mRotated ∨
        AsksResize p.buffer s.pixels (orientedWidth mode state) (orientedHeight mode state) false
  | _, _ => True

/-! ### What the listener rebuilds -/

theorem madeFor_unique {mode mode' : Size} {state state' : Rotation} {d : Desktop}
    (made : MadeFor mode state d) (made' : MadeFor mode' state' d) : mode' = mode ∧ state' = state := by
  obtain ⟨vd, projection, current, projected, rect, orientation⟩ := made.display
  obtain ⟨vd', projection', current', projected', rect', orientation'⟩ := made'.display
  rw [current, Option.some.injEq] at current'
  subst current'
  rw [projected, Option.some.injEq] at projected'
  subst projected'
  have states : state' = state := orientation'.symm.trans orientation
  subst states
  exact ⟨sourceRect_injective (rect'.symm.trans rect), rfl⟩

def newDisplay (pixels : PixelBuffer F) (d : Desktop) : VirtualDisplay :=
  .new F d.mDisplayMode d.mDisplayState pixels.width pixels.height d.mLayerId.toUInt32

def displayed (p : Platform) (pixels : PixelBuffer F) (d : Desktop) : Desktop :=
  Outcomes.after (runJniCallback p) { d with mVirtualDisplay := some (newDisplay pixels d) }

def rebuilt (p : Platform) (pixels : PixelBuffer F) (d : Desktop) : Desktop :=
  Outcomes.after (reconfigureInput p)
    { displayed p pixels d with mDisplayRect := (newDisplay pixels d).getDisplayRect F }

theorem onBufferDimensionsChanged_eq (p : Platform) (pixels : PixelBuffer F) (w h : UInt32) (d : Desktop) :
    onBufferDimensionsChanged p pixels w h d = (do
      setPixelBuffer p pixels.width pixels.height
      serverSetScreenLayout p pixels.width pixels.height : ListenerM Unit) (rebuilt p pixels d) := rfl

/-- What a callback or the server changes is not part of the geometry. -/
structure SameGeometry (d d' : Desktop) : Prop where
  display : d'.mVirtualDisplay = d.mVirtualDisplay
  mode : d'.mDisplayMode = d.mDisplayMode
  state : d'.mDisplayState = d.mDisplayState
  device : d'.mInputDevice = d.mInputDevice

theorem SameGeometry.refl (d : Desktop) : SameGeometry d d := ⟨rfl, rfl, rfl, rfl⟩

theorem SameGeometry.trans {d d' d'' : Desktop} (first : SameGeometry d d') (second : SameGeometry d' d'') :
    SameGeometry d d'' :=
  ⟨second.display.trans first.display, second.mode.trans first.mode, second.state.trans first.state,
    second.device.trans first.device⟩

theorem SameGeometry.agree {d d' : Desktop} (same : SameGeometry d d') (agree : ConsumersAgree d) :
    ConsumersAgree d' := by
  unfold ConsumersAgree
  rw [same.mode, same.state]
  exact ⟨by rw [same.display]; exact agree.display, by rw [same.device]; exact agree.range⟩

theorem callback_cases (p : Platform) (d : Desktop) :
    Outcomes.after (runJniCallback p) d = { d with callbacks := d.callbacks + 1 } ∨
    ∃ props ∈ p.displayProps d.callbacks, Outcomes.after (runJniCallback p) d =
      setDisplayProps props { d with callbacks := d.callbacks + 1 } := by
  rw [runJniCallback, Outcomes.after, Outcomes.modify_apply]
  cases p.displayProps d.callbacks with
  | none => exact Or.inl rfl
  | some props => exact Or.inr ⟨props, rfl, rfl⟩

theorem sameGeometry_callback (p : Platform) (d : Desktop) :
    SameGeometry d (Outcomes.after (runJniCallback p) d) := by
  rcases callback_cases p d with run | ⟨props, _, run⟩
  · rw [run]
    exact ⟨rfl, rfl, rfl, rfl⟩
  · rw [run]
    exact ⟨rfl, rfl, rfl, rfl⟩

theorem sameGeometry_setPixelBuffer (p : Platform) (w h : UInt32) (d : Desktop) :
    SameGeometry d (Outcomes.after (setPixelBuffer p w h) d) := by
  unfold setPixelBuffer
  split
  · exact ⟨rfl, rfl, rfl, rfl⟩
  · exact .refl d

theorem sameGeometry_serverSetScreenLayout (p : Platform) (w h : UInt32) (d : Desktop) :
    SameGeometry d (Outcomes.after (serverSetScreenLayout p w h) d) := by
  unfold serverSetScreenLayout
  split
  · exact ⟨rfl, rfl, rfl, rfl⟩
  · exact .refl d

theorem rebuilt_agrees {p : Platform} (devices : p.sys.Succeeds) (pixels : PixelBuffer F) (d : Desktop) :
    MadeFor d.mDisplayMode d.mDisplayState (rebuilt p pixels d) := by
  have shown := sameGeometry_callback p { d with mVirtualDisplay := some (newDisplay pixels d) }
  refine ⟨⟨_, _, shown.display, new_projection F _ _ _ _ _, rfl, rfl⟩, ?_⟩
  intro absolute
  have fresh := Input.reconfigure_started devices (displayed p pixels d).mDisplayMode.width.toUInt32
    (displayed p pixels d).mDisplayMode.height.toUInt32 (displayed p pixels d).touch
    (displayed p pixels d).relative (displayed p pixels d).mInputDevice
  have range := fresh.userDev
  have mode : (displayed p pixels d).mDisplayMode = d.mDisplayMode := shown.mode
  rw [if_neg (by rw [← fresh.useRelativeInput]; exact Bool.eq_false_iff.mp absolute), mode,
    Int32.toInt32_toUInt32, Int32.toInt32_toUInt32] at range
  have device : (rebuilt p pixels d).mInputDevice = (Input.reconfigure p.sys
      (displayed p pixels d).mDisplayMode.width.toUInt32 (displayed p pixels d).mDisplayMode.height.toUInt32
      (displayed p pixels d).touch (displayed p pixels d).relative (displayed p pixels d).mInputDevice).2 := rfl
  rw [device, mode, range]
  exact ⟨rfl, rfl⟩

theorem rebuilt_mode (p : Platform) (pixels : PixelBuffer F) (d : Desktop) :
    (rebuilt p pixels d).mDisplayMode = d.mDisplayMode :=
  (sameGeometry_callback p { d with mVirtualDisplay := some (newDisplay pixels d) }).mode

theorem rebuilt_state (p : Platform) (pixels : PixelBuffer F) (d : Desktop) :
    (rebuilt p pixels d).mDisplayState = d.mDisplayState :=
  (sameGeometry_callback p { d with mVirtualDisplay := some (newDisplay pixels d) }).state

theorem told_agrees {p : Platform} (devices : p.sys.Succeeds) (pixels : PixelBuffer F) (d : Desktop) :
    ConsumersAgree (p.buffer.told pixels d) := by
  have agree : ConsumersAgree (rebuilt p pixels d) := by
    unfold ConsumersAgree
    rw [rebuilt_mode, rebuilt_state]
    exact rebuilt_agrees devices pixels d
  have first := sameGeometry_setPixelBuffer p pixels.width pixels.height (rebuilt p pixels d)
  have run := onBufferDimensionsChanged_eq p pixels pixels.width pixels.height d
  rw [BufferEnv.told, Platform.buffer, Outcomes.after_congr run]
  cases result : setPixelBuffer p pixels.width pixels.height (rebuilt p pixels d) with
  | ok u d' =>
    rw [Outcomes.after_ok result] at first
    rw [Outcomes.after_bind_ok result]
    exact (first.trans (sameGeometry_serverSetScreenLayout p _ _ d')).agree agree
  | error u d' =>
    rw [Outcomes.after_error result] at first
    rw [Outcomes.after_bind_error result]
    exact first.agree agree

/-! ### The calls of the pixel buffer -/

variable {p : Platform}

def Told (d d' : Desktop) : Prop := d' = d ∨ ConsumersAgree d'

theorem Told.agree {d d' : Desktop} (told : Told d d') (agree : ConsumersAgree d) : ConsumersAgree d' := by
  rcases told with same | rebuilt
  · rw [same]
    exact agree
  · exact rebuilt

theorem notify_agrees (devices : p.sys.Succeeds) (s : Buffered F Desktop) :
    ConsumersAgree (Outcomes.after (notify p.buffer) s).listener := by
  rw [after_notify]
  exact told_agrees devices s.pixels s.listener

theorem told_of_ends (devices : p.sys.Succeeds) {x : BufferM F Desktop Unit}
    (ends : ∀ s, Ends p.buffer s (x s)) (s : Buffered F Desktop) :
    Told s.listener (Outcomes.after x s).listener := by
  have ends := ends s
  generalize result : x s = r at ends
  cases ends with
  | quiet =>
    rw [Outcomes.after_ok result]
    exact Or.inl rfl
  | refused =>
    rw [Outcomes.after_error result]
    exact Or.inl rfl
  | told =>
    rw [Outcomes.after_congr result]
    exact Or.inr (notify_agrees devices _)

theorem told_setSource (devices : p.sys.Succeeds) (w h : UInt32) (force : Bool) (s : Buffered F Desktop) :
    Told s.listener (Outcomes.after (setSource p.buffer w h force) s).listener :=
  told_of_ends devices (ends_setSource p.buffer w h force) s

theorem told_setWindowSize (devices : p.sys.Succeeds) (width height : UInt32) (s : Buffered F Desktop) :
    Told s.listener (Outcomes.after (setWindowSize p.buffer width height) s).listener :=
  told_of_ends devices (ends_setWindowSize p.buffer width height) s

/-- A source that asks for another size has the consumers rebuilt. -/
theorem setSource_agrees (devices : p.sys.Succeeds) {w h : UInt32} {force : Bool} {s : Buffered F Desktop}
    (asks : AsksResize p.buffer s.pixels w h force) :
    ConsumersAgree (Outcomes.after (setSource p.buffer w h force) s).listener := by
  have run := setSource_apply p.buffer w h force s
  simp only [if_neg asks.1] at run
  have follow := followClient_apply p.buffer (s.with ((s.pixels.sourced w h).clientSized
    (s.pixels.sourced w h).scaledWidth (s.pixels.sourced w h).scaledHeight))
  simp only at follow
  rw [if_neg (by exact asks.2.1), if_pos (by exact asks.2.2)] at follow
  rw [Outcomes.after_congr run, Outcomes.after_congr follow]
  exact notify_agrees devices _

/-- A source that asks for no other size is stored without telling anyone. -/
theorem setSource_returns (sizes : ∀ w h, p.setSizeAccepts w h = true) {w h : UInt32} {force : Bool}
    {s : Buffered F Desktop} (quiet : ¬AsksResize p.buffer s.pixels w h force) :
    ∃ s', setSource p.buffer w h force s = .ok () s' ∧ s'.listener = s.listener := by
  have run := setSource_apply p.buffer w h force s
  by_cases known : w = s.pixels.mSourceWidth ∧ h = s.pixels.mSourceHeight ∧ force = false
  · rw [if_pos known] at run
    exact ⟨s, run, rfl⟩
  · rw [if_neg known] at run
    have fits : (s.pixels.sourced w h).scaledWidth = s.pixels.width ∧
        (s.pixels.sourced w h).scaledHeight = s.pixels.height := by
      by_contra differs
      exact quiet ⟨known, differs, sizes _ _⟩
    have follow := followClient_apply p.buffer (s.with ((s.pixels.sourced w h).clientSized
      (s.pixels.sourced w h).scaledWidth (s.pixels.sourced w h).scaledHeight))
    simp only at follow
    rw [if_pos (by exact fits)] at follow
    exact ⟨_, run.trans follow, rfl⟩

theorem setDisplayInfo_agrees (devices : p.sys.Succeeds) (sizes : ∀ w h, p.setSizeAccepts w h = true)
    {mode : Size} {state : Rotation} {force : Bool} {s : Buffered F Desktop}
    (tells : isDisplayRotated state ≠ s.pixels.mRotated ∨
      AsksResize p.buffer s.pixels (orientedWidth mode state) (orientedHeight mode state) force) :
    ConsumersAgree (Outcomes.after (setDisplayInfo p.buffer mode state force) s).listener := by
  rw [setDisplayInfo_eq]
  by_cases same : isDisplayRotated state = s.pixels.mRotated
  · rw [Outcomes.after_bind_ok (setBufferRotation_same p.buffer same)]
    exact setSource_agrees devices (tells.resolve_left (not_not_intro same))
  · have run := setBufferRotation_accepted p.buffer same (sizes _ _)
    have agree := notify_agrees devices (s.with (s.pixels.turned (isDisplayRotated state)))
    rw [← Outcomes.after_congr run] at agree
    cases result : setBufferRotation p.buffer (isDisplayRotated state) s with
    | ok u s' =>
      rw [Outcomes.after_ok result] at agree
      rw [Outcomes.after_bind_ok result]
      exact (told_setSource devices _ _ _ s').agree agree
    | error u s' =>
      rw [Outcomes.after_error result] at agree
      rw [Outcomes.after_bind_error result]
      exact agree

theorem setDisplayInfo_returns (sizes : ∀ w h, p.setSizeAccepts w h = true) {mode : Size} {state : Rotation}
    {force : Bool} {s : Buffered F Desktop} (same : isDisplayRotated state = s.pixels.mRotated)
    (quiet : ¬AsksResize p.buffer s.pixels (orientedWidth mode state) (orientedHeight mode state) force) :
    ∃ s', setDisplayInfo p.buffer mode state force s = .ok () s' ∧ s'.listener = s.listener := by
  rw [setDisplayInfo_eq, Outcomes.bind_ok (setBufferRotation_same p.buffer same)]
  exact setSource_returns sizes quiet

/-! ### One update -/

def Desktop.shows (d : Desktop) (mode : Size) (state : Rotation) : Desktop :=
  { d with mDisplayMode := mode, mDisplayState := state }

theorem madeFor_of_shows {d : Desktop} {mode mode' : Size} {state state' : Rotation}
    (made : MadeFor mode state (d.shows mode' state')) : MadeFor mode state d :=
  ⟨made.display, made.range⟩

theorem storeDisplayInfo_mirror {q : Queries} {d : Desktop} (mirror : d.mLayerId = 0) :
    match stored q d with
    | .nothing => ∃ status, status ≠ .noError ∧ storeDisplayInfo q d = .ok status d
    | .modeOnly mode => storeDisplayInfo q d = .ok .noDisplayState (d.shows mode d.mDisplayState)
    | .both mode state => storeDisplayInfo q d = .ok .noError (d.shows mode state) := by
  have test : (d.mLayerId == 0) = true := beq_iff_eq.mpr mirror
  rw [stored, if_pos mirror, storeDisplayInfo, Outcomes.bind_ok (Outcomes.get_apply d),
    if_pos test]
  obtain ⟨token, mode, state⟩ := q
  cases token with
  | false => exact ⟨.noDisplayToken, by decide, rfl⟩
  | true =>
    cases mode with
    | none => exact ⟨.noDisplayMode, by decide, rfl⟩
    | some mode =>
      cases state with
      | none => rfl
      | some state =>
        have same : ({ d.shows mode state with mLayerId := 0 } : Desktop) = d.shows mode state := by
          rw [← mirror]
          rfl
        simp only
        rw [← same]
        rfl

theorem storeDisplayInfo_props {q : Queries} {d : Desktop} (virtual : d.mLayerId ≠ 0) :
    match stored q d with
    | .nothing => ∃ status, status ≠ .noError ∧ storeDisplayInfo q d = .ok status d
    | .modeOnly _ => False
    | .both mode state => storeDisplayInfo q d = .ok .noError (d.shows mode state) := by
  have test : ¬(d.mLayerId == 0) = true := by rw [beq_iff_eq]; exact virtual
  rw [stored, if_neg virtual, storeDisplayInfo, Outcomes.bind_ok (Outcomes.get_apply d),
    if_neg test]
  by_cases valid : 0 < d.width ∧ 0 < d.height ∧ -1 < d.rotation
  · rw [if_pos valid, if_pos valid]
    rfl
  · rw [if_neg valid, if_neg valid]
    exact ⟨.invalidRect, by decide, rfl⟩

theorem storeDisplayInfo_stored (q : Queries) (d : Desktop) :
    match stored q d with
    | .nothing => ∃ status, status ≠ .noError ∧ storeDisplayInfo q d = .ok status d
    | .modeOnly mode => storeDisplayInfo q d = .ok .noDisplayState (d.shows mode d.mDisplayState)
    | .both mode state => storeDisplayInfo q d = .ok .noError (d.shows mode state) := by
  by_cases mirror : d.mLayerId = 0
  · exact storeDisplayInfo_mirror mirror
  · have props := storeDisplayInfo_props (q := q) mirror
    cases outcome : stored q d with
    | nothing => simpa [outcome] using props
    | modeOnly mode => simp [outcome] at props
    | both mode state => simpa [outcome] using props

def Buffered.showing (s : Buffered F Desktop) (mode : Size) (state : Rotation) : Buffered F Desktop :=
  { s with listener := s.listener.shows mode state }

variable {q : Queries} (force : Bool) {s : Buffered F Desktop}

theorem updateDisplayInfo_nothing (nothing : stored q s.listener = .nothing) :
    ∃ status, status ≠ .noError ∧ updateDisplayInfo p q force s = .ok status s := by
  have store := storeDisplayInfo_stored q s.listener
  rw [nothing] at store
  obtain ⟨status, failed, store⟩ := store
  have run : onDesktop (storeDisplayInfo q) s = .ok status s := by rw [onDesktop, store]
  refine ⟨status, failed, ?_⟩
  rw [updateDisplayInfo, Outcomes.bind_ok run]
  cases status <;> first | rfl | exact absurd rfl failed

theorem updateDisplayInfo_modeOnly {mode : Size} (only : stored q s.listener = .modeOnly mode) :
    updateDisplayInfo p q force s = .ok .noDisplayState (s.showing mode s.listener.mDisplayState) := by
  have store := storeDisplayInfo_stored q s.listener
  rw [only] at store
  have run : onDesktop (storeDisplayInfo q) s =
      .ok .noDisplayState (s.showing mode s.listener.mDisplayState) := by
    rw [onDesktop, store]
    rfl
  rw [updateDisplayInfo, Outcomes.bind_ok run]
  rfl

theorem updateDisplayInfo_both {mode : Size} {state : Rotation} (both : stored q s.listener = .both mode state) :
    updateDisplayInfo p q force s = (do
      setDisplayInfo p.buffer mode state force
      return .noError : DesktopM F UpdateStatus) (s.showing mode state) := by
  have store := storeDisplayInfo_stored q s.listener
  rw [both] at store
  have run : onDesktop (storeDisplayInfo q) s = .ok .noError (s.showing mode state) := by
    rw [onDesktop, store]
    rfl
  rw [updateDisplayInfo, Outcomes.bind_ok run]
  rfl

/-- An update of agreeing consumers leaves them agreeing when it returns, exactly if it propagates. -/
theorem update_agrees_iff (devices : p.sys.Succeeds) (sizes : ∀ w h, p.setSizeAccepts w h = true)
    (agree : ConsumersAgree s.listener) :
    AgreesOnReturn p (some s) (.update q) ↔ Propagates p (some s) (.update q) := by
  unfold AgreesOnReturn Propagates
  simp only
  cases outcome : stored q s.listener with
  | nothing =>
    obtain ⟨status, _, run⟩ := updateDisplayInfo_nothing (p := p) false outcome
    refine iff_of_true ?_ trivial
    intro status' s' returned
    rw [run] at returned
    cases returned
    exact agree
  | modeOnly mode =>
    have run := updateDisplayInfo_modeOnly (p := p) false outcome
    simp only
    constructor
    · intro returns
      have made := returns _ _ run
      exact (madeFor_unique agree (madeFor_of_shows made)).1
    · intro same status' s' returned
      rw [run, same] at returned
      cases returned
      exact agree
  | both mode state =>
    have run := updateDisplayInfo_both (p := p) false outcome
    simp only
    by_cases tells : isDisplayRotated state ≠ s.pixels.mRotated ∨
        AsksResize p.buffer s.pixels (orientedWidth mode state) (orientedHeight mode state) false
    · refine iff_of_true ?_ (Or.inr tells)
      intro status' s' returned
      have rebuilt := setDisplayInfo_agrees devices sizes (s := s.showing mode state) tells
      rw [run] at returned
      obtain ⟨_, s'', info, final⟩ := Outcomes.bind_returns returned
      rw [Outcomes.after_ok info] at rebuilt
      cases final
      exact rebuilt
    · obtain ⟨same, quiet⟩ := not_or.mp tells
      have same := not_not.mp same
      obtain ⟨s', info, kept⟩ := setDisplayInfo_returns sizes (s := s.showing mode state) same quiet
      rw [Outcomes.bind_ok info] at run
      constructor
      · intro returns
        have made := returns _ _ run
        rw [kept] at made
        exact Or.inl (madeFor_unique agree (madeFor_of_shows made))
      · rintro (⟨modes, states⟩ | tells')
        · intro status' s'' returned
          rw [run] at returned
          cases returned
          rw [kept, modes, states]
          exact agree
        · exact absurd tells' tells

/-! ### Runs -/

omit [Floats F] in
theorem after_onDesktop {α : Type} (x : ListenerM α) (s : Buffered F Desktop) :
    Outcomes.after (onDesktop x) s = { s with listener := Outcomes.after x s.listener } := by
  cases result : x s.listener with
  | ok a d =>
    have run : onDesktop x s = .ok a { s with listener := d } := by rw [onDesktop, result]
    rw [Outcomes.after_ok run, Outcomes.after_ok result]
  | error e d =>
    have run : onDesktop x s = .error e { s with listener := d } := by rw [onDesktop, result]
    rw [Outcomes.after_error run, Outcomes.after_error result]

omit [Floats F] in
theorem onDesktop_agrees {α : Type} {x : ListenerM α} (same : ∀ d, SameGeometry d (Outcomes.after x d)) :
    Outcomes.Keeps (fun s : Buffered F Desktop => ConsumersAgree s.listener) (onDesktop x) := by
  intro s agree
  rw [after_onDesktop]
  exact (same s.listener).agree agree

theorem resize_agrees (devices : p.sys.Succeeds) (reqWidth reqHeight : Int32) :
    Outcomes.Keeps (fun s : Buffered F Desktop => ConsumersAgree s.listener)
      (setScreenLayout p reqWidth reqHeight) := by
  unfold setScreenLayout
  refine Outcomes.keeps_bind Outcomes.keeps_get fun s => ?_
  simp only
  split_ifs
  · exact Outcomes.keeps_bind (onDesktop_agrees (sameGeometry_callback p)) fun _ => Outcomes.keeps_pure false
  · exact Outcomes.keeps_pure false
  · refine Outcomes.keeps_bind ?_ fun _ => ?_
    · intro s agree
      exact (told_setWindowSize devices reqWidth.toUInt32 reqHeight.toUInt32 s).agree agree
    refine Outcomes.keeps_bind ?_ fun b => ?_
    · intro s agree
      exact agree
    · exact Outcomes.keeps_bind (onDesktop_agrees (sameGeometry_serverSetScreenLayout p b.width b.height))
        fun _ => Outcomes.keeps_pure true
  · exact Outcomes.keeps_pure false

/-- Between the events of a run the consumers agree, as long as the server loop is running. -/
def RunningAgrees (s : Option (Buffered F Desktop)) : Prop := ∀ running ∈ s, ConsumersAgree running.listener

/-- What an event left running, while the server loop is. -/
inductive EventLeft (p : Platform) (s : Buffered F Desktop) : DesktopEvent → Buffered F Desktop → Prop
  | update {q : Queries} {status : UpdateStatus} {s' : Buffered F Desktop}
      (returned : updateDisplayInfo p q false s = .ok status s') : EventLeft p s (.update q) s'
  | resize (reqWidth reqHeight : Int32) :
      EventLeft p s (.resize reqWidth reqHeight) (Outcomes.after (setScreenLayout p reqWidth reqHeight) s)
  | props (props : DisplayProps) :
      EventLeft p s (.props props) { s with listener := setDisplayProps props s.listener }

theorem desktopStep_left {s : Option (Buffered F Desktop)} {event : DesktopEvent} {running : Buffered F Desktop}
    (member : running ∈ desktopStep p s event) : ∃ before ∈ s, EventLeft p before event running := by
  cases s with
  | none => cases event <;> cases member
  | some before =>
    refine ⟨before, rfl, ?_⟩
    cases event with
    | update q =>
      rw [desktopStep] at member
      cases result : updateDisplayInfo p q false before with
      | ok status s' =>
        rw [result] at member
        cases member
        exact .update result
      | error e s' =>
        rw [result] at member
        cases member
    | resize reqWidth reqHeight =>
      cases member
      exact .resize reqWidth reqHeight
    | props props =>
      cases member
      exact .props props

theorem runningAgrees_step (devices : p.sys.Succeeds) {s : Option (Buffered F Desktop)} (agree : RunningAgrees s)
    {event : DesktopEvent} (returned : AgreesOnReturn p s event) : RunningAgrees (desktopStep p s event) := by
  intro running member
  obtain ⟨before, here, left⟩ := desktopStep_left member
  have held := agree before here
  cases here
  cases left with
  | update result => exact returned _ _ result
  | resize reqWidth reqHeight => exact resize_agrees devices reqWidth reqHeight before held
  | props props =>
    have same : SameGeometry before.listener (setDisplayProps props before.listener) := ⟨rfl, rfl, rfl, rfl⟩
    exact same.agree held

/-- The modes SurfaceFlinger reports are positive. -/
def Queries.Positive (q : Queries) : Prop := ∀ mode ∈ q.activeDisplayMode, mode.Positive

theorem stored_positive {q : Queries} (positive : q.Positive) {d : Desktop} {mode : Size} {state : Rotation}
    (both : stored q d = .both mode state) : mode.Positive := by
  unfold stored at both
  split_ifs at both with mirror valid
  · obtain ⟨token, active, orientation⟩ := q
    cases token <;> cases active <;> cases orientation <;> cases both
    exact positive _ rfl
  · cases both
    exact ⟨valid.1, valid.2.1⟩

/-- The forced first report of a new buffer asks for a size. -/
theorem asksResize_constructed (sizes : ∀ w h, p.setSizeAccepts w h = true) {mode : Size}
    (positive : mode.Positive) (state : Rotation) (clientWidth clientHeight sourceWidth sourceHeight : UInt32) :
    AsksResize p.buffer (.constructed clientWidth clientHeight sourceWidth sourceHeight : PixelBuffer F)
      (orientedWidth mode state) (orientedHeight mode state) true := by
  refine ⟨fun known => Bool.noConfusion known.2.2, ?_, sizes _ _⟩
  rintro ⟨empty, _⟩
  exact Floats.unscaled_ne_zero (orientedWidth_ne_zero positive state) empty

theorem start_agrees (devices : p.sys.Succeeds) (sizes : ∀ w h, p.setSizeAccepts w h = true) {q : Queries}
    (positive : q.Positive) {clientWidth clientHeight sourceWidth sourceHeight : UInt32} {device : Input.Device}
    {d : Desktop} {s : Buffered F Desktop}
    (started : start p q (allocate (.constructed clientWidth clientHeight sourceWidth sourceHeight) device d) =
      .ok true s) : ConsumersAgree s.listener := by
  obtain ⟨status, s', updated, rest⟩ := Outcomes.bind_returns started
  have agree : status = .noError → ConsumersAgree s'.listener := by
    intro success
    rw [success] at updated
    cases outcome : stored q (allocate (.constructed clientWidth clientHeight sourceWidth sourceHeight : PixelBuffer F)
        device d).listener with
    | nothing =>
      obtain ⟨status', failed, run⟩ := updateDisplayInfo_nothing (p := p) true outcome
      rw [run] at updated
      cases updated
      exact absurd rfl failed
    | modeOnly mode =>
      rw [updateDisplayInfo_modeOnly true outcome] at updated
      cases updated
    | both mode state =>
      rw [updateDisplayInfo_both true outcome] at updated
      obtain ⟨_, s'', info, final⟩ := Outcomes.bind_returns updated
      have asks := asksResize_constructed (F := F) sizes (stored_positive positive outcome) state
        clientWidth clientHeight sourceWidth sourceHeight
      have rebuilt := setDisplayInfo_agrees devices sizes
        (s := (allocate (.constructed clientWidth clientHeight sourceWidth sourceHeight) device d).showing
          mode state) (Or.inr asks)
      rw [Outcomes.after_ok info] at rebuilt
      cases final
      exact rebuilt
  cases status with
  | noError =>
    have given := onDesktop_agrees (sameGeometry_setPixelBuffer p s'.pixels.width s'.pixels.height) s' (agree rfl)
    obtain ⟨b, middle, got, rest⟩ := Outcomes.bind_returns rest
    cases got
    obtain ⟨_, final, taken, done⟩ := Outcomes.bind_returns rest
    rw [Outcomes.after_ok taken] at given
    cases done
    exact given
  | noDisplayToken => cases rest
  | noDisplayMode => cases rest
  | noDisplayState => cases rest
  | invalidRect => cases rest

/-- After a successful start, the consumers agree after each update that returns, exactly when each
update of the run propagates. -/
theorem consumers_agree_along_run (devices : p.sys.Succeeds) (sizes : ∀ w h, p.setSizeAccepts w h = true)
    {q : Queries} (positive : q.Positive) {clientWidth clientHeight sourceWidth sourceHeight : UInt32}
    {device : Input.Device} {d : Desktop} {s : Buffered F Desktop}
    (started : start p q (allocate (.constructed clientWidth clientHeight sourceWidth sourceHeight) device d) =
      .ok true s) (run : List DesktopEvent) :
    Runs.Along (desktopStep p) (AgreesOnReturn p) (some s) run ↔
      Runs.Along (desktopStep p) (Propagates p) (some s) run := by
  refine Runs.along_iff (I := RunningAgrees) ?_ ?_ ?_
  · intro running same
    cases same
    exact start_agrees devices sizes positive started
  · intro state event _ agree
    cases state with
    | none => exact Iff.rfl
    | some s =>
      cases event with
      | update q => exact update_agrees_iff devices sizes (agree s rfl)
      | resize reqWidth reqHeight => exact Iff.rfl
      | props props => exact Iff.rfl
  · intro state event _ agree returned
    exact runningAgrees_step devices agree returned

/-! ### A mirrored display -/

/-- Everything outside works, and Java sets no new properties. -/
def Platform.calm : Platform :=
  ⟨.succeeding, fun _ _ => true, fun _ _ => true, fun _ _ => true, fun _ => none⟩

/-- A report of a display of 1080 by 1920. -/
def portrait (state : Rotation) : Queries := ⟨true, some ⟨1080, 1920⟩, some state⟩

def mirrored : Buffered Single Desktop :=
  Outcomes.after (start .calm (portrait .rotation0))
    (allocate (.constructed 0 0 0 0) .closed { mLayerId := 0, mInputDevice := .closed })

theorem start_mirrored : start .calm (portrait .rotation0)
    (allocate (.constructed 0 0 0 0) .closed { mLayerId := 0, mInputDevice := .closed }) =
      .ok true mirrored :=
  Outcomes.ok_of_value (by decide +kernel)

theorem portrait_positive (state : Rotation) : (portrait state).Positive := by
  intro mode member
  cases member
  decide

theorem consumers_agree_mirrored :
    Runs.Along (desktopStep .calm) (AgreesOnReturn .calm) (some mirrored)
        [.update (portrait .rotation90), .resize 640 480, .update (portrait .rotation0)] ↔
      Runs.Along (desktopStep .calm) (Propagates .calm) (some mirrored)
        [.update (portrait .rotation90), .resize 640 480, .update (portrait .rotation0)] :=
  consumers_agree_along_run Input.succeeding_succeeds (fun _ _ => rfl) (portrait_positive .rotation0)
    start_mirrored _

theorem half_turn_leaves_display :
    start .calm (portrait .rotation0)
      (allocate (.constructed 0 0 0 0) .closed { mLayerId := 0, mInputDevice := .closed }) = .ok true mirrored ∧
    ¬Runs.Along (desktopStep .calm) (AgreesOnReturn .calm) (some mirrored) [.update (portrait .rotation180)] := by
  refine ⟨start_mirrored, ?_⟩
  rintro ⟨agrees, _⟩
  have agree := start_agrees Input.succeeding_succeeds (fun _ _ => rfl) (portrait_positive .rotation0)
    start_mirrored
  have propagates := (update_agrees_iff Input.succeeding_succeeds (fun _ _ => rfl) agree).mp agrees
  have both : stored (portrait .rotation180) mirrored.listener = .both ⟨1080, 1920⟩ .rotation180 := by
    decide +kernel
  have pixels : mirrored.pixels = ⟨1080, 1920, false, 1080, 1920, 1080, 1920, 1, 1⟩ := by decide +kernel
  have state : mirrored.listener.mDisplayState = .rotation0 := by decide +kernel
  unfold Propagates at propagates
  simp only [both, pixels, state] at propagates
  rcases propagates with ⟨_, turned⟩ | turned | ⟨known, _⟩
  · cases turned
  · exact turned rfl
  · exact known ⟨rfl, rfl, rfl⟩

end VncFlinger.Display
