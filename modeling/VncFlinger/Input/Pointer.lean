import VncFlinger.Input.Keyboard

/-!
# Pointer events

`pointerEvent` as the source has it, and what one call writes while every write succeeds. The
three buttons share their three-way branch: press, release, drag. Only the left one sends the
position with its press and release.
-/

namespace VncFlinger.Input
open Evdev

inductive Button where
  | left | right | middle
  deriving DecidableEq, Repr

def Button.bit : Button → Int32
  | .left => 1
  | .right => 4
  | .middle => 2

/-- The code a button is written as. In touch mode the right button is the back key. -/
def Button.code (touch : Bool) : Button → UInt16
  | .left => if touch then BTN_TOUCH else BTN_LEFT
  | .right => if touch then 158 else BTN_RIGHT
  | .middle => if touch then KEY_END else BTN_MIDDLE

def Device.clicked (d : Device) : Button → Bool
  | .left => d.mLeftClicked
  | .right => d.mRightClicked
  | .middle => d.mMiddleClicked

def Device.setClicked (d : Device) (b : Button) (v : Bool) : Device :=
  match b with
  | .left => { d with mLeftClicked := v }
  | .right => { d with mRightClicked := v }
  | .middle => { d with mMiddleClicked := v }

def Button.down (b : Button) (buttonMask : Int32) : Bool := buttonMask &&& b.bit != 0

/-! ### The source -/

def report (sys : Sys) : DeviceM Unit := do
  let _ ← inject sys EV_SYN SYN_REPORT 0

def injectAbs (sys : Sys) (x y : Int32) : DeviceM Unit := do
  let _ ← inject sys EV_ABS ABS_X x
  let _ ← inject sys EV_ABS ABS_Y y

/-- The part before the buttons: in mouse mode every call sends the position or its change. -/
def movePart (sys : Sys) (x y diffX diffY : Int32) : DeviceM Unit := do
  if !(← get).touch then
    if !(← get).useRelativeInput then injectAbs sys x y
    else
      let _ ← inject sys EV_REL REL_X diffX
      let _ ← inject sys EV_REL REL_Y diffY
    report sys

/-- The branch of one button. `position` says whether its press and release send the position. -/
def buttonPart (sys : Sys) (b : Button) (position down : Bool) (x y : Int32) : DeviceM Unit := do
  let d ← get
  if down && !d.clicked b then
    modify fun d => d.setClicked b true
    if position && !d.useRelativeInput then injectAbs sys x y
    let _ ← press sys (b.code d.touch)
    report sys
  else if !down && d.clicked b then
    modify fun d => d.setClicked b false
    if position && !d.useRelativeInput then injectAbs sys x y
    let _ ← release sys (b.code d.touch)
    report sys
  else if d.clicked b && !d.useRelativeInput then
    injectAbs sys x y
    report sys

def wheelPart (sys : Sys) (turned : Bool) (value : Int32) : DeviceM Unit := do
  if turned then
    let _ ← inject sys EV_REL REL_WHEEL value
    report sys

def pointerEvent (sys : Sys) (buttonMask x y : Int32) : DeviceM Unit := do
  if !(← get).mOpened then pure ()
  else
    let d ← get
    modify fun d => { d with mLastX := x, mLastY := y }
    movePart sys x y (x - d.mLastX) (y - d.mLastY)
    buttonPart sys .left true (Button.left.down buttonMask) x y
    buttonPart sys .right false (Button.right.down buttonMask) x y
    buttonPart sys .middle false (Button.middle.down buttonMask) x y
    wheelPart sys (buttonMask &&& 8 != 0) 1
    wheelPart sys (buttonMask &&& 0x10 != 0) (-1)

/-! ### What a pointer event writes -/

def absWrites (x y : Int32) : List InputEvent := [⟨EV_ABS, ABS_X, x⟩, ⟨EV_ABS, ABS_Y, y⟩]

def sync : InputEvent := ⟨EV_SYN, SYN_REPORT, 0⟩

def moveWrites (d : Device) (x y diffX diffY : Int32) : List InputEvent :=
  if d.touch then []
  else if d.useRelativeInput then [⟨EV_REL, REL_X, diffX⟩, ⟨EV_REL, REL_Y, diffY⟩, sync]
  else absWrites x y ++ [sync]

def keyValue (down : Bool) : Int32 := if down then 1 else 0

def buttonWrites (d : Device) (b : Button) (position down : Bool) (x y : Int32) : List InputEvent :=
  if down != d.clicked b then
    (if position && !d.useRelativeInput then absWrites x y else []) ++
      [⟨EV_KEY, b.code d.touch, keyValue down⟩, sync]
  else if down && !d.useRelativeInput then absWrites x y ++ [sync]
  else []

def wheelWrites (buttonMask : Int32) : List InputEvent :=
  (if buttonMask &&& 8 != 0 then [⟨EV_REL, REL_WHEEL, 1⟩, sync] else []) ++
    (if buttonMask &&& 0x10 != 0 then [⟨EV_REL, REL_WHEEL, -1⟩, sync] else [])

def pointerWrites (d : Device) (buttonMask x y : Int32) : List InputEvent :=
  moveWrites d x y (x - d.mLastX) (y - d.mLastY) ++
    buttonWrites d .left true (Button.left.down buttonMask) x y ++
    buttonWrites d .right false (Button.right.down buttonMask) x y ++
    buttonWrites d .middle false (Button.middle.down buttonMask) x y ++ wheelWrites buttonMask

def Device.pointed (d : Device) (buttonMask x y : Int32) : Device :=
  { d with
    mLastX := x, mLastY := y
    mLeftClicked := Button.left.down buttonMask
    mRightClicked := Button.right.down buttonMask
    mMiddleClicked := Button.middle.down buttonMask }

@[simp] theorem emit_setClicked (d : Device) (events : List InputEvent) (b : Button) (v : Bool) :
    (d.emit events).setClicked b v = (d.setClicked b v).emit events := by
  cases b <;> rfl

theorem setClicked_self {d : Device} {b : Button} {v : Bool} (same : d.clicked b = v) :
    d.setClicked b v = d := by
  subst same
  cases b <;> rfl

section Succeeding

variable {sys : Sys} (succeed : sys.WritesSucceed)
include succeed

theorem report_emit (d : Device) : report sys d = ((), d.emit [sync]) := by
  simp [report, inject_emit succeed, sync]

theorem injectAbs_emit (x y : Int32) (d : Device) : injectAbs sys x y d = ((), d.emit (absWrites x y)) := by
  simp [injectAbs, inject_emit succeed, absWrites]

theorem movePart_emit (x y diffX diffY : Int32) (d : Device) :
    movePart sys x y diffX diffY d = ((), d.emit (moveWrites d x y diffX diffY)) := by
  unfold movePart moveWrites
  cases touch : d.touch <;> cases relative : d.useRelativeInput <;>
    simp [touch, relative, injectAbs_emit succeed, report_emit succeed, inject_emit succeed]

theorem buttonPart_emit (b : Button) (position down : Bool) (x y : Int32) (d : Device) :
    buttonPart sys b position down x y d =
      ((), (d.setClicked b down).emit (buttonWrites d b position down x y)) := by
  unfold buttonPart buttonWrites
  cases down <;> cases clicked : d.clicked b
  case false.false => simp [clicked, setClicked_self clicked]
  case true.true =>
    cases relative : d.useRelativeInput <;>
      simp [clicked, relative, injectAbs_emit succeed, report_emit succeed, setClicked_self clicked]
  case false.true =>
    cases position <;> cases relative : d.useRelativeInput <;>
      simp [clicked, relative, injectAbs_emit succeed, report_emit succeed, release, inject_emit succeed,
        keyValue]
  case true.false =>
    cases position <;> cases relative : d.useRelativeInput <;>
      simp [clicked, relative, injectAbs_emit succeed, report_emit succeed, press, inject_emit succeed,
        keyValue]

theorem wheelPart_emit (turned : Bool) (value : Int32) (d : Device) :
    wheelPart sys turned value d =
      ((), d.emit (if turned then [⟨EV_REL, REL_WHEEL, value⟩, sync] else [])) := by
  cases turned <;> simp [wheelPart, inject_emit succeed, report_emit succeed]

/-- While writes succeed, `pointerEvent` on an open device stores the position and the buttons of
its mask, and writes the parts one after the other. -/
theorem pointerEvent_emit (buttonMask x y : Int32) (d : Device) (opened : d.mOpened = true) :
    (pointerEvent sys buttonMask x y d).2 =
      (d.pointed buttonMask x y).emit (pointerWrites d buttonMask x y) := by
  unfold pointerEvent
  simp only [bind_apply, get_apply, opened, Bool.not_true, Bool.false_eq_true, if_false]
  simp only [modify_apply, movePart_emit succeed, buttonPart_emit succeed, wheelPart_emit succeed,
    emit_setClicked, emit_emit, pointerWrites, wheelWrites, List.append_assoc]
  rfl

end Succeeding

end VncFlinger.Input
