import VncFlinger.Library.Outcomes

/-!
# The Java service

The fields of the `VncFlinger` service and `onStartCommand`. What it does to the rest of Android is
kept as a list of effects. Android's own answers are parameters: whether a display is created,
whether a resize is taken, and how the display is turned.
-/

namespace VncFlinger.Service

structure Settings where
  mMirrorInternal : Bool := false
  mHasAudio : Bool := true
  mAllowResize : Bool := false
  mEmulateTouch : Bool := false
  mUseRelativeInput : Bool := false
  mRemoteCursor : Bool := true
  mSupportClipboard : Bool := true
  mWidth : Int32 := 1280
  mHeight : Int32 := 720
  mDPI : Int32 := 160
  deriving DecidableEq, Repr

/-- The extras of a start intent; one that is absent is `none`. -/
structure Intent where
  width : Option Int32 := none
  height : Option Int32 := none
  dpi : Option Int32 := none
  emulateTouch : Option Bool := none
  useRelativeInput : Option Bool := none
  mirrorInternal : Option Bool := none
  allowResize : Option Bool := none
  hasAudio : Option Bool := none
  remoteCursor : Option Bool := none
  clipboard : Option Bool := none
  intentEnable : Option Bool := none
  intentPkg : Option String := none
  intentComponent : Option String := none
  deriving DecidableEq, Repr

inductive Effect where
  | quit
  | startVncThread
  | startAudioThread
  | endAudioStreamer
  | addClipListener
  | removeClipListener
  | createVirtualDisplay (display : Nat) (width height dpi : Int32)
  | resize (display : Nat) (width height dpi : Int32)
  | release (display : Nat)
  | registerCursorCallback
  | setForceNullCursor (force : Bool)
  | setDisplayProps (width height rotation layerId : Int32) (emulateTouch useRelativeInput : Bool)
  | startForeground
  deriving DecidableEq, Repr

inductive Throw where
  | nullPointer | platform
  deriving DecidableEq, Repr

inductive Creation where
  | display | null | throws
  deriving DecidableEq, Repr

/-- Android's answers. A display is known by the number of displays created before it. -/
structure Android where
  createVirtualDisplay : Nat → Int32 → Int32 → Int32 → Creation
  resizeReturns : Nat → Int32 → Int32 → Int32 → Bool
  getRotation : Nat → Int32

/-- Android creates every display and takes every size. -/
def Android.calm : Android := ⟨fun _ _ _ _ => .display, fun _ _ _ _ => true, fun _ => 0⟩

structure Fields extends Settings where
  mIntentEnable : Bool := false
  mIntentPkg : Option String := none
  mIntentComponent : Option String := none
  mDisplay : Option Nat := none
  mClipboard : Bool := false
  mIsRunning : Bool := false
  displays : Nat := 0
  effects : List Effect := []
  deriving DecidableEq, Repr

abbrev ServiceM := EStateM Throw Fields

def perform (e : Effect) : ServiceM Unit := modify fun s => { s with effects := s.effects ++ [e] }

/-- The display behind `mDisplay`, to call a method on. -/
def deref (display : Option Nat) : ServiceM Nat :=
  match display with
  | some display => pure display
  | none => throw .nullPointer

def resizeDisplay (android : Android) (width height dpi : Int32) : ServiceM Unit := do
  let display ← deref (← get).mDisplay
  perform (.resize display width height dpi)
  if android.resizeReturns display width height dpi then pure () else throw .platform

def doSetDisplayProps (android : Android) : ServiceM Unit := do
  let s ← get
  if s.mMirrorInternal then
    perform (.setDisplayProps (-1) (-1) (-1) 0 s.mEmulateTouch s.mUseRelativeInput)
  else
    let display ← deref s.mDisplay
    perform (.setDisplayProps s.mWidth s.mHeight (android.getRotation display * 90) (-1)
      s.mEmulateTouch s.mUseRelativeInput)

def changeDPI (android : Android) (dpi : Int32) : ServiceM Unit := do
  modify fun s => { s with mDPI := dpi }
  let s ← get
  resizeDisplay android s.mWidth s.mHeight s.mDPI

def resizeResolution (android : Android) (width height dpi : Int32) : ServiceM Unit := do
  modify fun s => { s with mWidth := width, mHeight := height }
  if dpi != -1 then
    modify fun s => { s with mDPI := dpi }
  resizeDisplay android width height (← get).mDPI
  doSetDisplayProps android

def onResizeDisplay (android : Android) (width height : Int32) : ServiceM Unit := do
  if !(← get).mAllowResize then pure ()
  else resizeResolution android width height (-1)

def performIf (c : Bool) (e : Effect) : ServiceM Unit := if c then perform e else pure ()

def releaseDisplay (display : Option Nat) : ServiceM Unit :=
  match display with
  | some display => perform (.release display)
  | none => pure ()

def cleanup : ServiceM Unit := do
  perform .quit
  let s ← get
  performIf s.mRemoteCursor (.setForceNullCursor false)
  performIf (s.mSupportClipboard && s.mClipboard) .removeClipListener
  releaseDisplay s.mDisplay
  performIf s.mHasAudio .endAudioStreamer
  modify fun s => { s with mIsRunning := false }

/-- Each extra of the intent, or the old setting where it is absent. -/
def Intent.merge (intent : Intent) (old : Settings) : Settings :=
  { mWidth := intent.width.getD old.mWidth
    mHeight := intent.height.getD old.mHeight
    mDPI := intent.dpi.getD old.mDPI
    mEmulateTouch := intent.emulateTouch.getD old.mEmulateTouch
    mUseRelativeInput := intent.useRelativeInput.getD old.mUseRelativeInput
    mMirrorInternal := intent.mirrorInternal.getD old.mMirrorInternal
    mAllowResize := intent.allowResize.getD old.mAllowResize
    mHasAudio := intent.hasAudio.getD old.mHasAudio
    mRemoteCursor := intent.remoteCursor.getD old.mRemoteCursor
    mSupportClipboard := intent.clipboard.getD old.mSupportClipboard }

/-- The settings whose change restarts a running service. -/
def restarts (old new : Settings) : Bool :=
  new.mEmulateTouch != old.mEmulateTouch || new.mUseRelativeInput != old.mUseRelativeInput ||
    new.mMirrorInternal != old.mMirrorInternal || new.mAllowResize != old.mAllowResize ||
    new.mHasAudio != old.mHasAudio || new.mRemoteCursor != old.mRemoteCursor

def updateClipboard (support : Bool) : ServiceM Unit := do
  if (← get).mSupportClipboard != support then
    modify fun s => { s with mClipboard := true }
    perform (if support then .addClipListener else .removeClipListener)
    modify fun s => { s with mSupportClipboard := support }

/-- `onStartCommand` on a running service, up to the sleep of a restart. The result says whether a
restart is under way. -/
def receiveRunning (android : Android) (new : Settings) : ServiceM Bool := do
  updateClipboard new.mSupportClipboard
  let s ← get
  if restarts s.toSettings new then
    modify fun s => { s with
      mEmulateTouch := new.mEmulateTouch, mUseRelativeInput := new.mUseRelativeInput
      mMirrorInternal := new.mMirrorInternal, mAllowResize := new.mAllowResize
      mHasAudio := new.mHasAudio, mRemoteCursor := new.mRemoteCursor }
    cleanup
    return true
  else if new.mWidth != s.mWidth || new.mHeight != s.mHeight || new.mDPI != s.mDPI then
    if new.mWidth == s.mWidth && new.mHeight == s.mHeight && new.mDPI != s.mDPI then
      changeDPI android new.mDPI
      return false
    else
      resizeResolution android new.mWidth new.mHeight new.mDPI
      return false
  else
    return false

/-- `onStartCommand` up to the acquisition: the extras are read, and a running service is changed
in place or cleaned up. -/
def receive (android : Android) (intent : Intent) : ServiceM Bool := do
  let s ← get
  if s.mIsRunning then
    receiveRunning android (intent.merge s.toSettings)
  else
    modify fun s => { s with
      toSettings := intent.merge s.toSettings
      mIntentEnable := intent.intentEnable.getD s.mIntentEnable
      mIntentPkg := intent.intentPkg
      mIntentComponent := intent.intentComponent }
    return true

def createDisplay (android : Android) : ServiceM Unit := do
  let s ← get
  if s.mMirrorInternal then pure ()
  else
    match android.createVirtualDisplay s.displays s.mWidth s.mHeight s.mDPI with
    | .display =>
      perform (.createVirtualDisplay s.displays s.mWidth s.mHeight s.mDPI)
      modify fun s => { s with mDisplay := some s.displays, displays := s.displays + 1 }
    | .null => modify fun s => { s with mDisplay := none }
    | .throws => throw .platform

def listenToClipboard : ServiceM Unit := do
  let s ← get
  modify fun s => { s with mClipboard := s.mClipboard || s.mSupportClipboard }
  performIf s.mSupportClipboard .addClipListener

def followCursor : ServiceM Unit := do
  let s ← get
  performIf s.mRemoteCursor .registerCursorCallback
  perform (.setForceNullCursor s.mRemoteCursor)

/-- The notification's intent names a component, which refuses a null package or class. -/
def showNotification : ServiceM Unit := do
  let s ← get
  if s.mIntentEnable && (s.mIntentPkg.isNone || s.mIntentComponent.isNone) then throw .nullPointer
  else perform .startForeground

/-- `onStartCommand` from the acquisition on. -/
def acquire (android : Android) : ServiceM Unit := do
  createDisplay android
  listenToClipboard
  perform .startVncThread
  performIf (← get).mHasAudio .startAudioThread
  followCursor
  showNotification
  modify fun s => { s with mIsRunning := true }

def onStartCommand (android : Android) (intent : Intent) : ServiceM Unit := do
  if ← receive android intent then acquire android else pure ()

/-! ### What each part does -/

def Fields.emit (s : Fields) (effects : List Effect) : Fields := { s with effects := s.effects ++ effects }

@[simp] theorem emit_emit (s : Fields) (first second : List Effect) :
    (s.emit first).emit second = s.emit (first ++ second) := by
  simp [Fields.emit]

@[simp] theorem emit_nil (s : Fields) : s.emit [] = s := by simp [Fields.emit]

theorem perform_apply (e : Effect) (s : Fields) : perform e s = .ok () (s.emit [e]) := rfl

theorem performIf_apply (c : Bool) (e : Effect) (s : Fields) :
    performIf c e s = .ok () (s.emit (if c then [e] else [])) := by
  cases c
  · simp [performIf]
    rfl
  · rfl

theorem releaseDisplay_apply (display : Option Nat) (s : Fields) :
    releaseDisplay display s = .ok () (s.emit (display.toList.map .release)) := by
  cases display
  · simp [releaseDisplay]
    rfl
  · rfl

def cleanupEffects (s : Fields) : List Effect :=
  [.quit] ++ (if s.mRemoteCursor then [.setForceNullCursor false] else []) ++
    (if s.mSupportClipboard && s.mClipboard then [.removeClipListener] else []) ++
    s.mDisplay.toList.map .release ++ (if s.mHasAudio then [.endAudioStreamer] else [])

def Fields.stopped (s : Fields) : Fields := { s with mIsRunning := false }

theorem cleanup_apply (s : Fields) : cleanup s = .ok () (s.emit (cleanupEffects s)).stopped := by
  unfold cleanup cleanupEffects
  rw [Outcomes.bind_ok (perform_apply _ s), Outcomes.bind_ok (Outcomes.get_apply _),
    Outcomes.bind_ok (performIf_apply _ _ _), Outcomes.bind_ok (performIf_apply _ _ _), Outcomes.bind_ok (releaseDisplay_apply _ _),
    Outcomes.bind_ok (performIf_apply _ _ _), Outcomes.modify_apply]
  simp only [emit_emit, List.append_assoc]
  rfl

def clipboardEffects (s : Fields) (support : Bool) : List Effect :=
  if s.mSupportClipboard = support then [] else if support then [.addClipListener] else [.removeClipListener]

def Fields.clipped (s : Fields) (support : Bool) : Fields :=
  { s with
    mSupportClipboard := support
    mClipboard := s.mClipboard || s.mSupportClipboard != support
    effects := s.effects ++ clipboardEffects s support }

theorem updateClipboard_apply (support : Bool) (s : Fields) :
    updateClipboard support s = .ok () (s.clipped support) := by
  obtain ⟨⟨_, _, _, _, _, _, old, _, _, _⟩, _, _, _, _, clipboard, _, _, effects⟩ := s
  unfold Fields.clipped clipboardEffects
  cases support <;> cases old <;> cases clipboard <;> simp <;> rfl

/-- The settings a restart takes over. Those of the size are not among them. -/
def Fields.restarted (s : Fields) (new : Settings) : Fields :=
  { s with
    mEmulateTouch := new.mEmulateTouch, mUseRelativeInput := new.mUseRelativeInput
    mMirrorInternal := new.mMirrorInternal, mAllowResize := new.mAllowResize
    mHasAudio := new.mHasAudio, mRemoteCursor := new.mRemoteCursor }

def Fields.restarting (s : Fields) (new : Settings) : Fields :=
  let changed := (s.clipped new.mSupportClipboard).restarted new
  (changed.emit (cleanupEffects changed)).stopped

/-- The fields of a service that was not running, with the extras of the intent. -/
def Fields.configured (s : Fields) (intent : Intent) : Fields :=
  { s with
    toSettings := intent.merge s.toSettings
    mIntentEnable := intent.intentEnable.getD s.mIntentEnable
    mIntentPkg := intent.intentPkg
    mIntentComponent := intent.intentComponent }

def sameSize (old new : Settings) : Prop := new.mWidth = old.mWidth ∧ new.mHeight = old.mHeight

variable {android : Android} {s : Fields} {new : Settings} {intent : Intent}

theorem receive_stopped (stopped : s.mIsRunning = false) :
    receive android intent s = .ok true (s.configured intent) := by
  rw [receive, Outcomes.bind_ok (Outcomes.get_apply s), if_neg (by rw [stopped]; exact Bool.false_ne_true)]
  rfl

theorem receive_running (running : s.mIsRunning = true) :
    receive android intent s = receiveRunning android (intent.merge s.toSettings) s := by
  rw [receive, Outcomes.bind_ok (Outcomes.get_apply s), if_pos running]

theorem receiveRunning_restart (changed : restarts s.toSettings new = true) :
    receiveRunning android new s = .ok true (s.restarting new) := by
  rw [receiveRunning, Outcomes.bind_ok (updateClipboard_apply _ s), Outcomes.bind_ok (Outcomes.get_apply _),
    if_pos (by exact changed), Outcomes.bind_ok (Outcomes.modify_apply _ _), Outcomes.bind_ok (cleanup_apply _)]
  rfl

/-- Without a restart, a running service goes on to the size. -/
theorem receiveRunning_unchanged (unchanged : restarts s.toSettings new = false) :
    receiveRunning android new s = (do
      if new.mWidth != s.mWidth || new.mHeight != s.mHeight || new.mDPI != s.mDPI then
        if new.mWidth == s.mWidth && new.mHeight == s.mHeight && new.mDPI != s.mDPI then
          changeDPI android new.mDPI
          return false
        else
          resizeResolution android new.mWidth new.mHeight new.mDPI
          return false
      else return false : ServiceM Bool) (s.clipped new.mSupportClipboard) := by
  rw [receiveRunning, Outcomes.bind_ok (updateClipboard_apply _ s), Outcomes.bind_ok (Outcomes.get_apply _),
    if_neg (by exact Bool.eq_false_iff.mp unchanged)]
  rfl

theorem receiveRunning_same (unchanged : restarts s.toSettings new = false) (size : sameSize s.toSettings new)
    (dpi : new.mDPI = s.mDPI) :
    receiveRunning android new s = .ok false (s.clipped new.mSupportClipboard) := by
  obtain ⟨width, height⟩ := size
  rw [receiveRunning_unchanged unchanged, width, height, dpi]
  simp only [bne_self_eq_false, Bool.or_self, Bool.false_eq_true, if_false]
  rfl

theorem receiveRunning_dpi (unchanged : restarts s.toSettings new = false) (size : sameSize s.toSettings new)
    (dpi : new.mDPI ≠ s.mDPI) :
    receiveRunning android new s =
      (do changeDPI android new.mDPI; return false : ServiceM Bool) (s.clipped new.mSupportClipboard) := by
  obtain ⟨width, height⟩ := size
  have changed : (new.mDPI != s.mDPI) = true := bne_iff_ne.mpr dpi
  rw [receiveRunning_unchanged unchanged, width, height, changed, Bool.or_true, if_pos rfl, BEq.rfl, BEq.rfl]
  rfl

theorem receiveRunning_size (unchanged : restarts s.toSettings new = false)
    (size : ¬sameSize s.toSettings new) :
    receiveRunning android new s = (do
      resizeResolution android new.mWidth new.mHeight new.mDPI
      return false : ServiceM Bool) (s.clipped new.mSupportClipboard) := by
  have differs : (new.mWidth != s.mWidth || new.mHeight != s.mHeight || new.mDPI != s.mDPI) = true := by
    unfold sameSize at size
    simp only [Bool.or_eq_true, bne_iff_ne]
    grind
  have notOnly : ¬(new.mWidth == s.mWidth && new.mHeight == s.mHeight && new.mDPI != s.mDPI) = true := by
    unfold sameSize at size
    simp only [Bool.and_eq_true, beq_iff_eq]
    grind
  rw [receiveRunning_unchanged unchanged, if_pos differs, if_neg notOnly]

theorem resizeDisplay_apply (android : Android) (s : Fields) (width height dpi : Int32) :
    resizeDisplay android width height dpi s =
      match s.mDisplay with
      | none => .error .nullPointer s
      | some display =>
        if android.resizeReturns display width height dpi then .ok () (s.emit [.resize display width height dpi])
        else .error .platform (s.emit [.resize display width height dpi]) := by
  rw [resizeDisplay, Outcomes.bind_ok (Outcomes.get_apply s)]
  cases held : s.mDisplay with
  | none => rfl
  | some display =>
    have called : deref (some display) s = .ok display s := rfl
    rw [Outcomes.bind_ok called, Outcomes.bind_ok (perform_apply _ s)]
    show _ = if android.resizeReturns display width height dpi then _ else _
    split
    · rfl
    · rfl

/-- There is a display, and Android takes the new size for it. -/
def Resizable (android : Android) (s : Fields) (width height dpi : Int32) : Prop :=
  ∃ display ∈ s.mDisplay, android.resizeReturns display width height dpi = true

theorem resizeDisplay_ok {width height dpi : Int32} (resizable : Resizable android s width height dpi) :
    ∃ display ∈ s.mDisplay,
      resizeDisplay android width height dpi s = .ok () (s.emit [.resize display width height dpi]) := by
  obtain ⟨display, held, returns⟩ := resizable
  have apply := resizeDisplay_apply android s width height dpi
  rw [held] at apply
  refine ⟨display, held, ?_⟩
  rw [apply]
  exact if_pos returns

theorem resizeDisplay_fails {width height dpi : Int32} (stuck : ¬Resizable android s width height dpi) :
    ∃ e s', resizeDisplay android width height dpi s = .error e s' := by
  have apply := resizeDisplay_apply android s width height dpi
  cases held : s.mDisplay with
  | none =>
    rw [held] at apply
    exact ⟨_, _, apply⟩
  | some display =>
    rw [held] at apply
    have refused : ¬android.resizeReturns display width height dpi = true := fun returns =>
      stuck ⟨display, held, returns⟩
    exact ⟨_, _, apply.trans (if_neg refused)⟩

theorem doSetDisplayProps_apply (android : Android) {display : Nat} (held : display ∈ s.mDisplay) :
    ∃ width height rotation layerId touch relative, doSetDisplayProps android s =
      .ok () (s.emit [.setDisplayProps width height rotation layerId touch relative]) := by
  rw [doSetDisplayProps, Outcomes.bind_ok (Outcomes.get_apply s)]
  split
  · exact ⟨_, _, _, _, _, _, rfl⟩
  · rw [Option.mem_def.mp held]
    exact ⟨_, _, _, _, _, _, rfl⟩

def Fields.sized (s : Fields) (width height dpi : Int32) : Fields :=
  { s with mWidth := width, mHeight := height, mDPI := dpi }

theorem changeDPI_ok {dpi : Int32} (resizable : Resizable android s s.mWidth s.mHeight dpi) :
    ∃ display, changeDPI android dpi s =
      .ok () ((s.sized s.mWidth s.mHeight dpi).emit [.resize display s.mWidth s.mHeight dpi]) := by
  have resizable' : Resizable android (s.sized s.mWidth s.mHeight dpi) s.mWidth s.mHeight dpi := resizable
  obtain ⟨display, _, run⟩ := resizeDisplay_ok resizable'
  exact ⟨display, run⟩

theorem changeDPI_fails {dpi : Int32} (stuck : ¬Resizable android s s.mWidth s.mHeight dpi) :
    ∃ e s', changeDPI android dpi s = .error e s' := by
  have stuck' : ¬Resizable android (s.sized s.mWidth s.mHeight dpi) s.mWidth s.mHeight dpi := stuck
  exact resizeDisplay_fails stuck'

/-- The density a resize stores: -1 stands for the old one. -/
def keptDPI (old dpi : Int32) : Int32 := if dpi = -1 then old else dpi

theorem resizeResolution_eq (width height dpi : Int32) :
    resizeResolution android width height dpi s = (do
      resizeDisplay android width height (keptDPI s.mDPI dpi)
      doSetDisplayProps android : ServiceM Unit) (s.sized width height (keptDPI s.mDPI dpi)) := by
  unfold resizeResolution keptDPI
  rw [Outcomes.bind_ok (Outcomes.modify_apply _ s)]
  by_cases keep : dpi = -1
  · rw [keep, bne_self_eq_false]
    rfl
  · rw [bne_iff_ne.mpr keep, if_neg keep]
    rfl

theorem resizeResolution_ok {width height dpi : Int32}
    (resizable : Resizable android s width height (keptDPI s.mDPI dpi)) :
    ∃ display w h rotation layerId touch relative, resizeResolution android width height dpi s =
      .ok () ((s.sized width height (keptDPI s.mDPI dpi)).emit
        [.resize display width height (keptDPI s.mDPI dpi),
          .setDisplayProps w h rotation layerId touch relative]) := by
  have resizable' : Resizable android (s.sized width height (keptDPI s.mDPI dpi)) width height
    (keptDPI s.mDPI dpi) := resizable
  obtain ⟨display, held, run⟩ := resizeDisplay_ok resizable'
  obtain ⟨w, h, rotation, layerId, touch, relative, props⟩ := doSetDisplayProps_apply android
    (s := (s.sized width height (keptDPI s.mDPI dpi)).emit [.resize display width height (keptDPI s.mDPI dpi)])
    held
  refine ⟨display, w, h, rotation, layerId, touch, relative, ?_⟩
  rw [resizeResolution_eq, Outcomes.bind_ok run, props, emit_emit]
  rfl

theorem resizeResolution_fails {width height dpi : Int32}
    (stuck : ¬Resizable android s width height (keptDPI s.mDPI dpi)) :
    ∃ e s', resizeResolution android width height dpi s = .error e s' := by
  have stuck' : ¬Resizable android (s.sized width height (keptDPI s.mDPI dpi)) width height
    (keptDPI s.mDPI dpi) := stuck
  obtain ⟨e, s', run⟩ := resizeDisplay_fails stuck'
  exact ⟨e, s', by rw [resizeResolution_eq, Outcomes.bind_error run]⟩

/-- The effects of a resize, which acquire nothing. -/
def Effect.Inert : Effect → Prop
  | .resize _ _ _ _ => True
  | .setDisplayProps _ _ _ _ _ _ => True
  | _ => False

/-- The fields differ by their size and by effects that acquire nothing. -/
def Resized (s s' : Fields) : Prop :=
  ∃ width height dpi effects, s' = (s.sized width height dpi).emit effects ∧ ∀ e ∈ effects, e.Inert

theorem resized_refl (s : Fields) : Resized s s :=
  ⟨s.mWidth, s.mHeight, s.mDPI, [], (emit_nil _).symm, by simp⟩

theorem changeDPI_returns {dpi : Int32} {s' : Fields} (ok : changeDPI android dpi s = .ok () s') :
    Resizable android s s.mWidth s.mHeight dpi ∧ ∃ display,
      s' = (s.sized s.mWidth s.mHeight dpi).emit [.resize display s.mWidth s.mHeight dpi] := by
  by_cases resizable : Resizable android s s.mWidth s.mHeight dpi
  · obtain ⟨display, run⟩ := changeDPI_ok resizable
    rw [run] at ok
    cases ok
    exact ⟨resizable, display, rfl⟩
  · obtain ⟨e, s'', run⟩ := changeDPI_fails resizable
    rw [run] at ok
    cases ok

theorem resizeResolution_returns {width height dpi : Int32} {s' : Fields}
    (ok : resizeResolution android width height dpi s = .ok () s') :
    Resizable android s width height (keptDPI s.mDPI dpi) ∧
      ∃ display w h rotation layerId touch relative, s' = (s.sized width height (keptDPI s.mDPI dpi)).emit
        [.resize display width height (keptDPI s.mDPI dpi),
          .setDisplayProps w h rotation layerId touch relative] := by
  by_cases resizable : Resizable android s width height (keptDPI s.mDPI dpi)
  · obtain ⟨display, w, h, rotation, layerId, touch, relative, run⟩ := resizeResolution_ok resizable
    rw [run] at ok
    cases ok
    exact ⟨resizable, display, w, h, rotation, layerId, touch, relative, rfl⟩
  · obtain ⟨e, s'', run⟩ := resizeResolution_fails resizable
    rw [run] at ok
    cases ok

theorem changeDPI_resized {dpi : Int32} {s' : Fields} (ok : changeDPI android dpi s = .ok () s') :
    Resized s s' := by
  obtain ⟨_, display, rfl⟩ := changeDPI_returns ok
  refine ⟨_, _, _, _, rfl, ?_⟩
  intro e member
  rw [List.mem_singleton.mp member]
  trivial

theorem resizeResolution_resized {width height dpi : Int32} {s' : Fields}
    (ok : resizeResolution android width height dpi s = .ok () s') : Resized s s' := by
  obtain ⟨_, display, w, h, rotation, layerId, touch, relative, rfl⟩ := resizeResolution_returns ok
  refine ⟨_, _, _, _, rfl, ?_⟩
  intro e member
  rcases List.mem_cons.mp member with rfl | member
  · trivial
  · rw [List.mem_singleton.mp member]
    trivial

theorem onResizeDisplay_resized {width height : Int32} {s' : Fields}
    (ok : onResizeDisplay android width height s = .ok () s') : Resized s s' := by
  rw [onResizeDisplay, Outcomes.bind_ok (Outcomes.get_apply s)] at ok
  split at ok
  · cases ok
    exact resized_refl s
  · exact resizeResolution_resized ok

theorem receiveRunning_resized (unchanged : restarts s.toSettings new = false) {again : Bool} {s' : Fields}
    (received : receiveRunning android new s = .ok again s') :
    again = false ∧ Resized (s.clipped new.mSupportClipboard) s' := by
  by_cases size : sameSize s.toSettings new
  · by_cases dpi : new.mDPI = s.mDPI
    · rw [receiveRunning_same unchanged size dpi] at received
      cases received
      exact ⟨rfl, resized_refl _⟩
    · rw [receiveRunning_dpi unchanged size dpi] at received
      obtain ⟨_, middle, changed, final⟩ := Outcomes.bind_returns received
      cases final
      exact ⟨rfl, changeDPI_resized changed⟩
  · rw [receiveRunning_size unchanged size] at received
    obtain ⟨_, middle, changed, final⟩ := Outcomes.bind_returns received
    cases final
    exact ⟨rfl, resizeResolution_resized changed⟩

theorem received_acquiring {s' : Fields} (received : receive android intent s = .ok true s') :
    s.mIsRunning = false ∧ s' = s.configured intent ∨
      s.mIsRunning = true ∧ restarts s.toSettings (intent.merge s.toSettings) = true ∧
        s' = s.restarting (intent.merge s.toSettings) := by
  cases running : s.mIsRunning with
  | false =>
    rw [receive_stopped running] at received
    cases received
    exact Or.inl ⟨rfl, rfl⟩
  | true =>
    rw [receive_running running] at received
    cases changed : restarts s.toSettings (intent.merge s.toSettings) with
    | false => exact absurd (receiveRunning_resized changed received).1 (by simp)
    | true =>
      rw [receiveRunning_restart changed] at received
      cases received
      exact Or.inr ⟨rfl, rfl, rfl⟩

theorem received_inPlace {s' : Fields} (received : receive android intent s = .ok false s') :
    s.mIsRunning = true ∧ Resized (s.clipped (intent.merge s.toSettings).mSupportClipboard) s' := by
  cases running : s.mIsRunning with
  | false =>
    rw [receive_stopped running] at received
    cases received
  | true =>
    rw [receive_running running] at received
    cases changed : restarts s.toSettings (intent.merge s.toSettings) with
    | false => exact ⟨rfl, (receiveRunning_resized changed received).2⟩
    | true =>
      rw [receiveRunning_restart changed] at received
      cases received

/-! ### The acquisition -/

/-- Android does not refuse the display, and the notification's intent has its component. -/
structure CanAcquire (android : Android) (s : Fields) : Prop where
  display : s.mMirrorInternal = false →
    android.createVirtualDisplay s.displays s.mWidth s.mHeight s.mDPI ≠ .throws
  component : s.mIntentEnable = true → s.mIntentPkg ≠ none ∧ s.mIntentComponent ≠ none

def Fields.shown (s : Fields) (android : Android) : Fields :=
  if s.mMirrorInternal then s
  else
    match android.createVirtualDisplay s.displays s.mWidth s.mHeight s.mDPI with
    | .display =>
      { s with
        mDisplay := some s.displays, displays := s.displays + 1
        effects := s.effects ++ [.createVirtualDisplay s.displays s.mWidth s.mHeight s.mDPI] }
    | _ => { s with mDisplay := none }

def startEffects (s : Fields) : List Effect :=
  (if s.mSupportClipboard then [.addClipListener] else []) ++ [.startVncThread] ++
    (if s.mHasAudio then [.startAudioThread] else []) ++
    (if s.mRemoteCursor then [.registerCursorCallback] else []) ++ [.setForceNullCursor s.mRemoteCursor]

def Fields.started (s : Fields) : Fields :=
  { s with
    mClipboard := s.mClipboard || s.mSupportClipboard
    effects := s.effects ++ startEffects s }

theorem createDisplay_ok (accepts : s.mMirrorInternal = false →
    android.createVirtualDisplay s.displays s.mWidth s.mHeight s.mDPI ≠ .throws) :
    createDisplay android s = .ok () (s.shown android) := by
  rw [createDisplay, Outcomes.bind_ok (Outcomes.get_apply s), Fields.shown]
  cases mirror : s.mMirrorInternal with
  | true => rfl
  | false =>
    cases creation : android.createVirtualDisplay s.displays s.mWidth s.mHeight s.mDPI with
    | display => rfl
    | null => rfl
    | throws => exact absurd creation (accepts mirror)

theorem createDisplay_fails (mirror : s.mMirrorInternal = false)
    (throws : android.createVirtualDisplay s.displays s.mWidth s.mHeight s.mDPI = .throws) :
    createDisplay android s = .error .platform s := by
  rw [createDisplay, Outcomes.bind_ok (Outcomes.get_apply s), mirror, throws]
  rfl

theorem acquire_eq (s : Fields) (accepts : s.mMirrorInternal = false →
    android.createVirtualDisplay s.displays s.mWidth s.mHeight s.mDPI ≠ .throws) :
    acquire android s = (do
      showNotification
      modify fun s => { s with mIsRunning := true } : ServiceM Unit) (s.shown android).started := by
  have clipboard : ∀ s : Fields, listenToClipboard s = .ok ()
      ({ s with mClipboard := s.mClipboard || s.mSupportClipboard }.emit
        (if s.mSupportClipboard then [.addClipListener] else [])) := by
    intro s
    rw [listenToClipboard, Outcomes.bind_ok (Outcomes.get_apply s),
      Outcomes.bind_ok (Outcomes.modify_apply _ s), performIf_apply]
  have cursor : ∀ s : Fields, followCursor s = .ok ()
      (s.emit ((if s.mRemoteCursor then [.registerCursorCallback] else []) ++
        [.setForceNullCursor s.mRemoteCursor])) := by
    intro s
    rw [followCursor, Outcomes.bind_ok (Outcomes.get_apply s), Outcomes.bind_ok (performIf_apply _ _ s),
      perform_apply, emit_emit]
  rw [acquire, Outcomes.bind_ok (createDisplay_ok accepts), Outcomes.bind_ok (clipboard _),
    Outcomes.bind_ok (perform_apply _ _), Outcomes.bind_ok (Outcomes.get_apply _),
    Outcomes.bind_ok (performIf_apply _ _ _), Outcomes.bind_ok (cursor _)]
  simp only [emit_emit]
  unfold Fields.started startEffects Fields.emit
  simp only [List.append_assoc]

def Fields.acquired (s : Fields) (android : Android) : Fields :=
  { (s.shown android).started.emit [.startForeground] with mIsRunning := true }

theorem shown_settings (s : Fields) (android : Android) :
    (s.shown android).toSettings = s.toSettings ∧ (s.shown android).mIntentEnable = s.mIntentEnable ∧
      (s.shown android).mIntentPkg = s.mIntentPkg ∧
      (s.shown android).mIntentComponent = s.mIntentComponent := by
  unfold Fields.shown
  split
  · exact ⟨rfl, rfl, rfl, rfl⟩
  · split <;> exact ⟨rfl, rfl, rfl, rfl⟩

theorem acquired_settings (s : Fields) (android : Android) :
    (s.acquired android).toSettings = s.toSettings :=
  (shown_settings s android).1

theorem showNotification_apply (s : Fields) :
    showNotification s =
      if s.mIntentEnable = true ∧ (s.mIntentPkg = none ∨ s.mIntentComponent = none) then .error .nullPointer s
      else .ok () (s.emit [.startForeground]) := by
  rw [showNotification, Outcomes.bind_ok (Outcomes.get_apply s)]
  have test : (s.mIntentEnable && (s.mIntentPkg.isNone || s.mIntentComponent.isNone)) = true ↔
      s.mIntentEnable = true ∧ (s.mIntentPkg = none ∨ s.mIntentComponent = none) := by
    simp
  by_cases refused : s.mIntentEnable = true ∧ (s.mIntentPkg = none ∨ s.mIntentComponent = none)
  · rw [if_pos (test.mpr refused), if_pos refused]
    rfl
  · rw [if_neg (fun h => refused (test.mp h)), if_neg refused]
    rfl

theorem acquire_ok (can : CanAcquire android s) : acquire android s = .ok () (s.acquired android) := by
  obtain ⟨_, enable, pkg, component⟩ := shown_settings s android
  rw [acquire_eq s can.display]
  have shown := showNotification_apply (s.shown android).started
  rw [if_neg] at shown
  · exact Outcomes.bind_ok shown
  · rintro ⟨enabled, missing⟩
    have present := can.component (enable.symm.trans enabled)
    rcases missing with noPkg | noComponent
    · exact present.1 (pkg.symm.trans noPkg)
    · exact present.2 (component.symm.trans noComponent)

theorem acquire_fails (cannot : ¬CanAcquire android s) : ∃ e s', acquire android s = .error e s' := by
  by_cases accepts : s.mMirrorInternal = false →
      android.createVirtualDisplay s.displays s.mWidth s.mHeight s.mDPI ≠ .throws
  · obtain ⟨_, enable, pkg, component⟩ := shown_settings s android
    have shown := showNotification_apply (s.shown android).started
    rw [if_pos] at shown
    · exact ⟨_, _, by rw [acquire_eq s accepts]; exact Outcomes.bind_error shown⟩
    · apply Classical.byContradiction
      intro named
      refine cannot ⟨accepts, fun enabled => not_or.mp fun missing => named ⟨enable.trans enabled, ?_⟩⟩
      rcases missing with noPkg | noComponent
      · exact Or.inl (pkg.trans noPkg)
      · exact Or.inr (component.trans noComponent)
  · obtain ⟨mirror, throws⟩ := Classical.not_imp.mp accepts
    exact ⟨_, _, by rw [acquire, Outcomes.bind_error (createDisplay_fails mirror (not_not.mp throws))]⟩

theorem acquire_returns {u : Unit} {s' : Fields} (ok : acquire android s = .ok u s') :
    CanAcquire android s ∧ s' = s.acquired android := by
  by_cases can : CanAcquire android s
  · rw [acquire_ok can] at ok
    cases ok
    exact ⟨can, rfl⟩
  · obtain ⟨e, s'', run⟩ := acquire_fails can
    rw [run] at ok
    cases ok

end VncFlinger.Service
