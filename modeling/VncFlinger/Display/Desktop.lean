import VncFlinger.Input.Device
import VncFlinger.Display.VirtualDisplay

/-!
# The desktop

The members of `AndroidDesktop` that the display geometry passes through. The desktop is the
listener of its own pixel buffer, so its state is the listener's state of the buffer. SurfaceFlinger,
the VNC server and the Java callbacks are parameters: a query may fail, the server may throw, and
a callback may set new display properties.
-/

namespace VncFlinger.Display

structure DisplayProps where
  w : Int32
  h : Int32
  rotation : Int32
  layerId : Int32
  touch : Bool
  relative : Bool
  deriving DecidableEq, Repr

/-- The sizes last taken by the VNC server. -/
structure Server where
  pixelBuffer : Option (UInt32 × UInt32) := none
  screenLayout : Option (UInt32 × UInt32) := none
  deriving DecidableEq, Repr

/-- What is outside the desktop. `displayProps n` is what Java sets during the n-th callback. -/
structure Platform where
  sys : Input.Sys
  setSizeAccepts : UInt32 → UInt32 → Bool
  setPixelBufferReturns : UInt32 → UInt32 → Bool
  setScreenLayoutReturns : UInt32 → UInt32 → Bool
  displayProps : Nat → Option DisplayProps

/-- The members of `AndroidDesktop` other than `mPixels`. -/
structure Desktop where
  mLayerId : Int32 := -1
  mVirtualDisplay : Option VirtualDisplay := none
  width : Int32 := 1
  height : Int32 := 1
  rotation : Int32 := 0
  touch : Bool := false
  relative : Bool := false
  mDisplayRect : Rect := .sized 0 0
  mDisplayMode : Size := ⟨0, 0⟩
  mDisplayState : Rotation := .rotation0
  mInputDevice : Input.Device
  server : Server := {}
  callbacks : Nat := 0
  deriving DecidableEq, Repr

structure Queries where
  displayToken : Bool
  activeDisplayMode : Option Size
  displayState : Option Rotation
  deriving DecidableEq, Repr

inductive UpdateStatus where
  | noError | noDisplayToken | noDisplayMode | noDisplayState | invalidRect
  deriving DecidableEq, Repr

abbrev ListenerM := EStateM Unit Desktop

abbrev DesktopM (F : Type) := BufferM F Desktop

/-! ### The listener -/

def setDisplayProps (props : DisplayProps) (d : Desktop) : Desktop :=
  { d with
    width := props.w, height := props.h, rotation := props.rotation, mLayerId := props.layerId
    touch := props.touch, relative := props.relative }

/-- A callback into Java, which may call the native `setDisplayProps` before it returns. -/
def runJniCallback (p : Platform) : ListenerM Unit := modify fun d =>
  let called := { d with callbacks := d.callbacks + 1 }
  match p.displayProps d.callbacks with
  | some props => setDisplayProps props called
  | none => called

def setPixelBuffer (p : Platform) (width height : UInt32) : ListenerM Unit := do
  if p.setPixelBufferReturns width height then
    modify fun d => { d with server := { d.server with
      pixelBuffer := some (width, height), screenLayout := some (width, height) } }
  else throw ()

def serverSetScreenLayout (p : Platform) (width height : UInt32) : ListenerM Unit := do
  if p.setScreenLayoutReturns width height then
    modify fun d => { d with server := { d.server with screenLayout := some (width, height) } }
  else throw ()

def reconfigureInput (p : Platform) : ListenerM Unit := modify fun d =>
  { d with mInputDevice := (Input.reconfigure p.sys d.mDisplayMode.width.toUInt32
      d.mDisplayMode.height.toUInt32 d.touch d.relative d.mInputDevice).2 }

variable {F : Type} [Floats F]

def onBufferDimensionsChanged (p : Platform) (pixels : PixelBuffer F) (_width _height : UInt32) :
    ListenerM Unit := do
  modify fun d => { d with mVirtualDisplay := none }
  let d ← get
  let vd := VirtualDisplay.new F d.mDisplayMode d.mDisplayState pixels.width pixels.height d.mLayerId.toUInt32
  modify fun d => { d with mVirtualDisplay := some vd }
  runJniCallback p
  modify fun d => { d with mDisplayRect := vd.getDisplayRect F }
  reconfigureInput p
  setPixelBuffer p pixels.width pixels.height
  serverSetScreenLayout p pixels.width pixels.height

def Platform.buffer (p : Platform) : BufferEnv F Desktop :=
  ⟨p.setSizeAccepts, onBufferDimensionsChanged p⟩

/-! ### The operations -/

/-- An action on the members beside the pixel buffer. -/
def onDesktop {α : Type} (x : ListenerM α) : DesktopM F α := fun s =>
  match x s.listener with
  | .ok a d => .ok a { s with listener := d }
  | .error e d => .error e { s with listener := d }

def toRotation (rotation : Int32) : Rotation :=
  if rotation = 270 then .rotation270
  else if rotation = 180 then .rotation180
  else if rotation = 90 then .rotation90
  else .rotation0

/-- The first part of `updateDisplayInfo`: storing the mode and the orientation. -/
def storeDisplayInfo (q : Queries) : ListenerM UpdateStatus := do
  let d ← get
  if d.mLayerId == 0 then
    if !q.displayToken then return .noDisplayToken
    match q.activeDisplayMode with
    | none => return .noDisplayMode
    | some mode =>
      modify fun d => { d with mDisplayMode := mode }
      match q.displayState with
      | none => return .noDisplayState
      | some orientation =>
        modify fun d => { d with mDisplayState := orientation }
        modify fun d => { d with mLayerId := 0 }
        return .noError
  else if 0 < d.width ∧ 0 < d.height ∧ -1 < d.rotation then
    modify fun d => { d with mDisplayMode := ⟨d.width, d.height⟩ }
    modify fun d => { d with mDisplayState := toRotation d.rotation }
    return .noError
  else return .invalidRect

def updateDisplayInfo (p : Platform) (q : Queries) (force : Bool) : DesktopM F UpdateStatus := do
  match ← onDesktop (storeDisplayInfo q) with
  | .noError =>
    let d := (← get).listener
    setDisplayInfo p.buffer d.mDisplayMode d.mDisplayState force
    return .noError
  | failed => return failed

def allocate (pixels : PixelBuffer F) (device : Input.Device) (d : Desktop) : Buffered F Desktop :=
  { pixels := pixels, listener := { d with mInputDevice := device } }

/-- `start` after the allocations. It succeeds if the server has been given the buffer. -/
def start (p : Platform) (q : Queries) : DesktopM F Bool := do
  match ← updateDisplayInfo p q true with
  | .noError =>
    let b ← getPixels
    onDesktop (setPixelBuffer p b.width b.height)
    return true
  | _ => return false

/-- `setScreenLayout`; the result says whether it was `resultSuccess`. -/
def setScreenLayout (p : Platform) (reqWidth reqHeight : Int32) : DesktopM F Bool := do
  let d := (← get).listener
  if d.mLayerId < 0 then
    onDesktop (runJniCallback p)
    return false
  else if reqWidth = d.mDisplayRect.getWidth ∧ reqHeight = d.mDisplayRect.getHeight then
    return false
  else if 0 < reqWidth ∧ 0 < reqHeight then
    setWindowSize p.buffer reqWidth.toUInt32 reqHeight.toUInt32
    let b ← getPixels
    onDesktop (serverSetScreenLayout p b.width b.height)
    return true
  else
    return false

end VncFlinger.Display
