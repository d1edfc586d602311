import VncFlinger.Library.Outcomes
import VncFlinger.Display.Geometry

/-!
# The pixel buffer

`AndroidPixelBuffer` with a listener attached. `setSize` is the base class's and may refuse a
size, and the listener may throw. Either exception leaves the members as they are at that point.
-/

namespace VncFlinger.Display

structure PixelBuffer (F : Type) where
  width : UInt32
  height : UInt32
  mRotated : Bool
  mClientWidth : UInt32
  mClientHeight : UInt32
  mSourceWidth : UInt32
  mSourceHeight : UInt32
  mScaleX : F
  mScaleY : F
  deriving DecidableEq, Repr

section Source

variable {F τ : Type} [Floats F]

def PixelBuffer.constructed (clientWidth clientHeight sourceWidth sourceHeight : UInt32) : PixelBuffer F :=
  { width := 0, height := 0, mRotated := false, mScaleX := 1, mScaleY := 1
    mClientWidth := clientWidth, mClientHeight := clientHeight
    mSourceWidth := sourceWidth, mSourceHeight := sourceHeight }

/-- A pixel buffer, the state of its listener, and the notifications so far. -/
structure Buffered (F τ : Type) where
  pixels : PixelBuffer F
  listener : τ
  notified : List (UInt32 × UInt32) := []
  deriving DecidableEq, Repr

abbrev BufferM (F τ : Type) := EStateM Unit (Buffered F τ)

/-- The sizes `setSize` of the base class takes, and the listener. -/
structure BufferEnv (F τ : Type) where
  accepts : UInt32 → UInt32 → Bool
  onBufferDimensionsChanged : PixelBuffer F → UInt32 → UInt32 → EStateM Unit τ Unit

def updatePixels (f : PixelBuffer F → PixelBuffer F) : BufferM F τ Unit :=
  modify fun s => { s with pixels := f s.pixels }

def getPixels : BufferM F τ (PixelBuffer F) := do return (← get).pixels

/-- `setSize` of the base class: a refused size throws and changes nothing. -/
def setSize (env : BufferEnv F τ) (w h : UInt32) : BufferM F τ Unit := do
  if env.accepts w h then updatePixels fun b => { b with width := w, height := h }
  else throw ()

/-- `mListener->onBufferDimensionsChanged(width(), height())`. -/
def notify (env : BufferEnv F τ) : BufferM F τ Unit := fun s =>
  let notified := s.notified ++ [(s.pixels.width, s.pixels.height)]
  match env.onBufferDimensionsChanged s.pixels s.pixels.width s.pixels.height s.listener with
  | .ok _ listener => .ok () { s with listener := listener, notified := notified }
  | .error _ listener => .error () { s with listener := listener, notified := notified }

def isDisplayRotated (orientation : Rotation) : Bool :=
  orientation != .rotation0 && orientation != .rotation180

def setBufferRotation (env : BufferEnv F τ) (rotated : Bool) : BufferM F τ Unit := do
  if rotated != (← getPixels).mRotated then
    updatePixels fun b => { b with mRotated := rotated }
    let b ← getPixels
    setSize env b.height b.width
    updatePixels fun b => { b with mScaleX := b.mScaleY, mScaleY := b.mScaleX }
    notify env

/-- The size of the source under the remembered scale. -/
def PixelBuffer.scaledWidth (b : PixelBuffer F) : UInt32 :=
  Floats.toUInt32 (Floats.ofUInt32 b.mSourceWidth * b.mScaleX)

def PixelBuffer.scaledHeight (b : PixelBuffer F) : UInt32 :=
  Floats.toUInt32 (Floats.ofUInt32 b.mSourceHeight * b.mScaleY)

def updateBufferSize (env : BufferEnv F τ) (fromDisplay : Bool) : BufferM F τ Unit := do
  if fromDisplay then
    updatePixels fun b => { b with mClientWidth := b.scaledWidth, mClientHeight := b.scaledHeight }
  -- in both branches of the source the local w and h are now the client size
  let b ← getPixels
  let w := b.mClientWidth
  let h := b.mClientHeight
  updatePixels fun b => { b with
    mScaleX := Floats.ofUInt32 b.mClientWidth / Floats.ofUInt32 b.mSourceWidth
    mScaleY := Floats.ofUInt32 b.mClientHeight / Floats.ofUInt32 b.mSourceHeight }
  if w == b.width && h == b.height then pure ()
  else
    setSize env w h
    notify env

def setWindowSize (env : BufferEnv F τ) (width height : UInt32) : BufferM F τ Unit := do
  let b ← getPixels
  if b.mClientWidth != width || b.mClientHeight != height then
    updatePixels fun b => { b with mClientWidth := width, mClientHeight := height }
    updateBufferSize env false

/-- The size of a mode as the display shows it. -/
def orientedWidth (mode : Size) (state : Rotation) : UInt32 :=
  if isDisplayRotated state then mode.height.toUInt32 else mode.width.toUInt32

def orientedHeight (mode : Size) (state : Rotation) : UInt32 :=
  if isDisplayRotated state then mode.width.toUInt32 else mode.height.toUInt32

theorem toUInt32_ne_zero {x : Int32} (positive : 0 < x) : x.toUInt32 ≠ 0 := by
  intro zero
  have same : x = 0 := by rw [← Int32.toInt32_toUInt32 x, zero]; rfl
  rw [same] at positive
  exact absurd positive (by decide)

theorem orientedWidth_ne_zero {mode : Size} (positive : mode.Positive) (state : Rotation) :
    orientedWidth mode state ≠ 0 := by
  unfold orientedWidth
  split
  · exact toUInt32_ne_zero positive.2
  · exact toUInt32_ne_zero positive.1

theorem orientedHeight_ne_zero {mode : Size} (positive : mode.Positive) (state : Rotation) :
    orientedHeight mode state ≠ 0 := by
  unfold orientedHeight
  split
  · exact toUInt32_ne_zero positive.1
  · exact toUInt32_ne_zero positive.2

def setDisplayInfo (env : BufferEnv F τ) (mode : Size) (state : Rotation) (force : Bool) : BufferM F τ Unit := do
  setBufferRotation env (isDisplayRotated state)
  let w := orientedWidth mode state
  let h := orientedHeight mode state
  let b ← getPixels
  if w != b.mSourceWidth || h != b.mSourceHeight || force then
    updatePixels fun b => { b with mSourceWidth := w, mSourceHeight := h }
    updateBufferSize env true

end Source

/-! ### What each call does -/

section Runs

variable {F τ : Type} (env : BufferEnv F τ) {s : Buffered F τ}

def PixelBuffer.turned (b : PixelBuffer F) (rotated : Bool) : PixelBuffer F :=
  if rotated = b.mRotated then b
  else { b with
    mRotated := rotated, width := b.height, height := b.width, mScaleX := b.mScaleY, mScaleY := b.mScaleX }

def PixelBuffer.clientSized (b : PixelBuffer F) (width height : UInt32) : PixelBuffer F :=
  { b with mClientWidth := width, mClientHeight := height }

def PixelBuffer.sourced (b : PixelBuffer F) (w h : UInt32) : PixelBuffer F :=
  { b with mSourceWidth := w, mSourceHeight := h }

def PixelBuffer.sized (b : PixelBuffer F) (w h : UInt32) : PixelBuffer F :=
  { b with width := w, height := h }

def Buffered.with (s : Buffered F τ) (b : PixelBuffer F) : Buffered F τ := { s with pixels := b }

theorem updatePixels_apply (f : PixelBuffer F → PixelBuffer F) (s : Buffered F τ) :
    updatePixels f s = .ok () (s.with (f s.pixels)) := rfl

theorem getPixels_apply (s : Buffered F τ) : getPixels s = .ok s.pixels s := rfl

theorem setSize_accepted {w h : UInt32} (accepted : env.accepts w h = true) :
    setSize env w h s = .ok () (s.with (s.pixels.sized w h)) := by
  rw [setSize, if_pos accepted]
  rfl

theorem setSize_refused {w h : UInt32} (refused : env.accepts w h = false) :
    setSize env w h s = .error () s := by
  rw [setSize, if_neg (by rw [refused]; exact Bool.false_ne_true)]
  rfl

theorem setBufferRotation_same {rotated : Bool} (same : rotated = s.pixels.mRotated) :
    setBufferRotation env rotated s = .ok () s := by
  rw [setBufferRotation, Outcomes.bind_ok (getPixels_apply s), same, bne_self_eq_false]
  rfl

theorem turned_same {b : PixelBuffer F} {rotated : Bool} (same : rotated = b.mRotated) :
    b.turned rotated = b := by
  rw [PixelBuffer.turned, if_pos same]

theorem setBufferRotation_accepted {rotated : Bool} (turns : rotated ≠ s.pixels.mRotated)
    (accepted : env.accepts s.pixels.height s.pixels.width = true) :
    setBufferRotation env rotated s = notify env (s.with (s.pixels.turned rotated)) := by
  rw [setBufferRotation, Outcomes.bind_ok (getPixels_apply s), bne_iff_ne.mpr turns,
    PixelBuffer.turned, if_neg turns]
  rw [if_pos rfl, Outcomes.bind_ok (updatePixels_apply _ s), Outcomes.bind_ok (getPixels_apply _)]
  rw [Outcomes.bind_ok (setSize_accepted env (by exact accepted)), Outcomes.bind_ok (updatePixels_apply _ _)]
  rfl

theorem setBufferRotation_refused {rotated : Bool} (turns : rotated ≠ s.pixels.mRotated)
    (refused : env.accepts s.pixels.height s.pixels.width = false) :
    setBufferRotation env rotated s = .error () (s.with { s.pixels with mRotated := rotated }) := by
  rw [setBufferRotation, Outcomes.bind_ok (getPixels_apply s), bne_iff_ne.mpr turns, if_pos rfl,
    Outcomes.bind_ok (updatePixels_apply _ s), Outcomes.bind_ok (getPixels_apply _)]
  exact Outcomes.bind_error (setSize_refused env (by exact refused))

def BufferEnv.told (b : PixelBuffer F) (listener : τ) : τ :=
  Outcomes.after (env.onBufferDimensionsChanged b b.width b.height) listener

theorem after_notify (s : Buffered F τ) : Outcomes.after (notify env) s =
    { s with
      listener := env.told s.pixels s.listener
      notified := s.notified ++ [(s.pixels.width, s.pixels.height)] } := by
  unfold BufferEnv.told
  cases result : env.onBufferDimensionsChanged s.pixels s.pixels.width s.pixels.height s.listener with
  | ok u listener =>
    have run : notify env s = .ok () { s with
        listener := listener, notified := s.notified ++ [(s.pixels.width, s.pixels.height)] } := by
      rw [notify, result]
    rw [Outcomes.after_ok run, Outcomes.after_ok result]
  | error u listener =>
    have run : notify env s = .error () { s with
        listener := listener, notified := s.notified ++ [(s.pixels.width, s.pixels.height)] } := by
      rw [notify, result]
    rw [Outcomes.after_error run, Outcomes.after_error result]

theorem notify_returns_iff (s : Buffered F τ) : Outcomes.Returns (notify env) s ↔
    ∃ listener, env.onBufferDimensionsChanged s.pixels s.pixels.width s.pixels.height s.listener =
      .ok () listener := by
  unfold Outcomes.Returns notify
  cases env.onBufferDimensionsChanged s.pixels s.pixels.width s.pixels.height s.listener with
  | ok u listener => exact iff_of_true ⟨_, _, rfl⟩ ⟨_, rfl⟩
  | error u listener => simp

variable [Floats F]

def PixelBuffer.windowed (b : PixelBuffer F) (width height : UInt32) : PixelBuffer F :=
  { b with
    mClientWidth := width, mClientHeight := height
    mScaleX := Floats.ofUInt32 width / Floats.ofUInt32 b.mSourceWidth
    mScaleY := Floats.ofUInt32 height / Floats.ofUInt32 b.mSourceHeight }

/-- The part of `updateBufferSize` after the client size is known. -/
def followClient : BufferM F τ Unit := do
  let b ← getPixels
  updatePixels fun b => { b with
    mScaleX := Floats.ofUInt32 b.mClientWidth / Floats.ofUInt32 b.mSourceWidth
    mScaleY := Floats.ofUInt32 b.mClientHeight / Floats.ofUInt32 b.mSourceHeight }
  if b.mClientWidth == b.width && b.mClientHeight == b.height then pure ()
  else
    setSize env b.mClientWidth b.mClientHeight
    notify env

/-- The client size decides: the scale follows it, and so does the buffer if it has another size. -/
theorem followClient_apply (s : Buffered F τ) :
    followClient env s =
      let w := s.pixels.mClientWidth
      let h := s.pixels.mClientHeight
      let windowed := s.pixels.windowed w h
      if w = s.pixels.width ∧ h = s.pixels.height then .ok () (s.with windowed)
      else if env.accepts w h then notify env (s.with (windowed.sized w h))
      else .error () (s.with windowed) := by
  rw [followClient, Outcomes.bind_ok (getPixels_apply _), Outcomes.bind_ok (updatePixels_apply _ _)]
  by_cases same : s.pixels.mClientWidth = s.pixels.width ∧ s.pixels.mClientHeight = s.pixels.height
  · have test : (s.pixels.mClientWidth == s.pixels.width && s.pixels.mClientHeight == s.pixels.height) = true := by
      simp [same]
    rw [if_pos test]
    exact (if_pos same).symm
  · have test : ¬(s.pixels.mClientWidth == s.pixels.width &&
        s.pixels.mClientHeight == s.pixels.height) = true := by
      simpa using same
    rw [if_neg test]
    refine Eq.trans ?_ (if_neg same).symm
    cases accepted : env.accepts s.pixels.mClientWidth s.pixels.mClientHeight with
    | true => exact Outcomes.bind_ok (setSize_accepted env accepted)
    | false => exact Outcomes.bind_error (setSize_refused env accepted)

theorem updateBufferSize_display (s : Buffered F τ) :
    updateBufferSize env true s =
      followClient env (s.with (s.pixels.clientSized s.pixels.scaledWidth s.pixels.scaledHeight)) := by
  rw [updateBufferSize, if_pos rfl, Outcomes.bind_ok (updatePixels_apply _ s)]
  rfl

theorem updateBufferSize_client (s : Buffered F τ) : updateBufferSize env false s = followClient env s := rfl

theorem setWindowSize_apply (width height : UInt32) (s : Buffered F τ) :
    setWindowSize env width height s =
      if s.pixels.mClientWidth = width ∧ s.pixels.mClientHeight = height then .ok () s
      else followClient env (s.with (s.pixels.clientSized width height)) := by
  rw [setWindowSize, Outcomes.bind_ok (getPixels_apply s)]
  by_cases same : s.pixels.mClientWidth = width ∧ s.pixels.mClientHeight = height
  · have test : ¬(s.pixels.mClientWidth != width || s.pixels.mClientHeight != height) = true := by simp [same]
    rw [if_neg test, if_pos same]
    rfl
  · have test : (s.pixels.mClientWidth != width || s.pixels.mClientHeight != height) = true := by
      simp only [Bool.or_eq_true, bne_iff_ne]
      grind
    rw [if_pos test, if_neg same, Outcomes.bind_ok (updatePixels_apply _ s)]
    exact updateBufferSize_client env _

/-- The part of `setDisplayInfo` after the rotation. -/
def setSource (w h : UInt32) (force : Bool) : BufferM F τ Unit := do
  let b ← getPixels
  if w != b.mSourceWidth || h != b.mSourceHeight || force then
    updatePixels fun b => { b with mSourceWidth := w, mSourceHeight := h }
    updateBufferSize env true

theorem setDisplayInfo_eq (mode : Size) (state : Rotation) (force : Bool) :
    setDisplayInfo env mode state force = (do
      setBufferRotation env (isDisplayRotated state)
      setSource env (orientedWidth mode state) (orientedHeight mode state) force) := rfl

theorem setSource_apply (w h : UInt32) (force : Bool) (s : Buffered F τ) :
    setSource env w h force s =
      if w = s.pixels.mSourceWidth ∧ h = s.pixels.mSourceHeight ∧ force = false then .ok () s
      else
        let sourced := s.pixels.sourced w h
        followClient env (s.with (sourced.clientSized sourced.scaledWidth sourced.scaledHeight)) := by
  rw [setSource, Outcomes.bind_ok (getPixels_apply s)]
  by_cases same : w = s.pixels.mSourceWidth ∧ h = s.pixels.mSourceHeight ∧ force = false
  · have test : ¬(w != s.pixels.mSourceWidth || h != s.pixels.mSourceHeight || force) = true := by simp [same]
    rw [if_neg test, if_pos same]
    rfl
  · have test : (w != s.pixels.mSourceWidth || h != s.pixels.mSourceHeight || force) = true := by
      simp only [Bool.or_eq_true, bne_iff_ne]
      grind
    rw [if_pos test, if_neg same, Outcomes.bind_ok (updatePixels_apply _ s)]
    exact updateBufferSize_display env _

/-- A source size that is new or forced, and asks for another buffer size that `setSize` takes. -/
def AsksResize (b : PixelBuffer F) (w h : UInt32) (force : Bool) : Prop :=
  ¬(w = b.mSourceWidth ∧ h = b.mSourceHeight ∧ force = false) ∧
    ¬((b.sourced w h).scaledWidth = b.width ∧ (b.sourced w h).scaledHeight = b.height) ∧
    env.accepts (b.sourced w h).scaledWidth (b.sourced w h).scaledHeight = true

end Runs

end VncFlinger.Display
