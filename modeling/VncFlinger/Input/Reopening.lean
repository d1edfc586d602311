import VncFlinger.Input.Opening
import VncFlinger.Input.Buttons

/-!
# A start that finds the device open

`start` resets the button flags, the last position and the mode before it looks at the descriptor.
On an open device it fails after that, and later events are written from what it left.
-/

namespace VncFlinger.Input
open Evdev

def Device.movedTo (d : Device) (x y : Int32) : Device := { d with mLastX := x, mLastY := y }

/-- A device in a state some run of operations leads to from the constructor. -/
def Reached (d : Device) : Prop :=
  ∃ (sys : Sys) (members : Device) (run : List Operation),
    run.foldl (operate sys) members.constructed = d

/-- No button is held, the mode is the one asked for, and a relative mouse is at the origin. -/
structure Unnoticed (d : Device) (istouch relative : Bool) : Prop where
  released : ∀ b, d.clicked b = false
  touch : istouch = d.touch
  relative : relative = d.useRelativeInput
  origin : d.touch = false → d.useRelativeInput = true → d.mLastX = 0 ∧ d.mLastY = 0

/-- The flags, the last position and the mode. -/
structure SameInput (d d' : Device) : Prop where
  clicked : ∀ b, d'.clicked b = d.clicked b
  lastX : d'.mLastX = d.mLastX
  lastY : d'.mLastY = d.mLastY
  touch : d'.touch = d.touch
  relative : d'.useRelativeInput = d.useRelativeInput

/-- Every later sequence of events is written as from the other device, whatever the writes answer. -/
def SameWrites (d d' : Device) : Prop :=
  ∀ (later : Sys) (run : List Call),
    (run.foldl (callStep later) d').kernel.writes = (run.foldl (callStep later) d).kernel.writes

variable {sys : Sys} {d : Device} {istouch relative : Bool}

theorem start_open (opened : 0 ≤ d.mFD) (width height : UInt32) (istouch relative : Bool) :
    start sys width height istouch relative d = (.noInit, d.reset istouch relative) := by
  rw [start_apply, if_pos opened]

theorem operate_opened {op : Operation} (opened : 0 ≤ d.mFD → d.mOpened = true)
    (still : 0 ≤ (operate sys d op).mFD) : (operate sys d op).mOpened = true := by
  have begun : ∀ {before after : Device}, (0 ≤ before.mFD → before.mOpened = true) → Begun before after →
      0 ≤ after.mFD → after.mOpened = true := by
    intro before after opened how still
    cases how with
    | already already mFD mOpened _ => exact mOpened.trans (opened already)
    | failed _ mFD _ _ => omega
    | started _ mOpened _ _ _ => exact mOpened
  have injected : Injected d (operate sys d op) → (operate sys d op).mOpened = true := by
    intro injected
    rw [injected.mOpened]
    rw [injected.mFD] at still
    exact opened still
  have closed := stop_closed sys d
  cases op with
  | start width height istouch relative | startAsync width height istouch relative =>
    exact begun opened (start_begun sys width height istouch relative d) still
  | reconfigure width height istouch relative =>
    refine begun ?_ (start_begun sys width height istouch relative (stop sys d).2) still
    intro still
    omega
  | stop =>
    have gone : ¬ 0 ≤ (stop sys d).2.mFD := by omega
    exact absurd still gone
  | keyEvent down keysym => exact injected ((composes_injects sys).keyEvent down keysym d)
  | pointerEvent buttonMask x y => exact injected (injects_pointerEvent sys buttonMask x y d)

theorem Reached.opened (reached : Reached d) (open_ : 0 ≤ d.mFD) : d.mOpened = true := by
  obtain ⟨sys, members, run, rfl⟩ := reached
  have start : 0 ≤ members.constructed.mFD → members.constructed.mOpened = true := fun still =>
    absurd still (show ¬ (0 : Int) ≤ -1 by decide)
  exact Runs.foldl_invariant (I := fun d : Device => 0 ≤ d.mFD → d.mOpened = true) start
    (fun _ _ _ opened => operate_opened opened) open_

/-! ### The last position -/

/-- The computation does not look at the last position. -/
def Blind (α : Type) (x : DeviceM α) : Prop :=
  ∀ d lastX lastY, x (d.movedTo lastX lastY) = ((x d).1, (x d).2.movedTo lastX lastY)

theorem composes_blind (sys : Sys) : Composes sys sys fun α x _ => Blind α x where
  returns _ _ _ _ := rfl
  sequence := by
    intro α β x _ f _ first rest d lastX lastY
    rw [bind_apply, bind_apply, first, rest]
  injected _ _ _ _ _ _ := rfl
  guarded := by
    intro x _ rest d lastX lastY
    rw [bind_apply, bind_apply, get_apply, get_apply]
    show (if !d.mOpened then pure () else x) (d.movedTo lastX lastY) = _
    cases d.mOpened with
    | false => rfl
    | true => exact rest d lastX lastY

theorem movePart_blind (blind : d.touch = true ∨ d.useRelativeInput = false)
    (x y diffX diffY diffX' diffY' : Int32) :
    movePart sys x y diffX diffY d = movePart sys x y diffX' diffY' d := by
  unfold movePart
  rw [bind_apply, bind_apply, get_apply]
  rcases blind with touch | absolute
  · simp [touch]
  · cases d.touch <;> simp [absolute]

/-- The part of `pointerEvent` behind the move. -/
def afterMove (sys : Sys) (buttonMask x y : Int32) : DeviceM Unit := do
  buttonPart sys .left true (Button.left.down buttonMask) x y
  buttonPart sys .right false (Button.right.down buttonMask) x y
  buttonPart sys .middle false (Button.middle.down buttonMask) x y
  wheelPart sys (buttonMask &&& 8 != 0) 1
  wheelPart sys (buttonMask &&& 0x10 != 0) (-1)

theorem pointerEvent_apply (opened : d.mOpened = true) (buttonMask x y : Int32) :
    pointerEvent sys buttonMask x y d = afterMove sys buttonMask x y
      (movePart sys x y (x - d.mLastX) (y - d.mLastY) (d.movedTo x y)).2 := by
  unfold pointerEvent
  rw [bind_apply, get_apply, opened]
  rfl

/-- A relative mouse alone sends the step from the last position. -/
theorem pointerEvent_blind (opened : d.mOpened = true) (blind : d.touch = true ∨ d.useRelativeInput = false)
    (buttonMask x y lastX lastY : Int32) :
    pointerEvent sys buttonMask x y (d.movedTo lastX lastY) = pointerEvent sys buttonMask x y d := by
  have moved : (d.movedTo lastX lastY).movedTo x y = d.movedTo x y := rfl
  have opened' : (d.movedTo lastX lastY).mOpened = true := opened
  have blind' : (d.movedTo x y).touch = true ∨ (d.movedTo x y).useRelativeInput = false := blind
  rw [pointerEvent_apply opened', pointerEvent_apply opened, moved,
    movePart_blind blind' x y _ _ (x - d.mLastX) (y - d.mLastY)]

/-- The last position of a device that does not send it leaves no trace in the writes. -/
theorem run_blind (opened : d.mOpened = true) (blind : d.touch = true ∨ d.useRelativeInput = false)
    (lastX lastY : Int32) (run : List Call) :
    (run.foldl (callStep sys) (d.movedTo lastX lastY)).kernel.writes =
      (run.foldl (callStep sys) d).kernel.writes := by
  induction run generalizing d lastX lastY with
  | nil => rfl
  | cons call rest ih =>
    rw [List.foldl_cons, List.foldl_cons]
    cases call with
    | pointer buttonMask x y =>
      rw [callStep, callStep, pointerEvent_blind opened blind]
    | key down keysym =>
      have injected := (composes_injects sys).keyEvent down keysym d
      have moved := (composes_blind sys).keyEvent down keysym d lastX lastY
      rw [callStep, callStep, moved]
      apply ih
      · exact injected.mOpened.trans opened
      · rw [injected.touch, injected.useRelativeInput]
        exact blind

/-! ### What the next events show -/

theorem none_down (b : Button) : b.down 0 = false := by
  cases b <;> decide

theorem pointerWrites_idle (released : ∀ b, d.clicked b = false) (x y : Int32) :
    pointerWrites d 0 x y = moveWrites d x y (x - d.mLastX) (y - d.mLastY) := by
  have button : ∀ b position, buttonWrites d b position (b.down 0) x y = [] := by
    intro b position
    simp [buttonWrites, none_down b, released b]
  have wheel : wheelWrites 0 = [] := by decide
  unfold pointerWrites
  rw [button .left true, button .right false, button .middle false, wheel]
  simp only [List.append_nil]

/-- The press of the left button sends the position of an absolute touch screen. -/
theorem pointerWrites_press (released : ∀ b, d.clicked b = false) (touch : d.touch = true) (x y : Int32) :
    pointerWrites d 1 x y =
      (if d.useRelativeInput then [] else absWrites x y) ++ [⟨EV_KEY, BTN_TOUCH, keyValue true⟩, sync] := by
  have left : Button.left.down 1 = true := by decide
  have right : Button.right.down 1 = false := by decide
  have middle : Button.middle.down 1 = false := by decide
  have wheel : wheelWrites 1 = [] := by decide
  cases relative : d.useRelativeInput <;>
    simp [pointerWrites, moveWrites, buttonWrites, released, left, right, middle, wheel, touch, relative,
      Button.code]

theorem pointerWrites_release (left : d.clicked .left = true) (right : d.clicked .right = false)
    (middle : d.clicked .middle = false) (touch : d.touch = true) (absolute : d.useRelativeInput = false)
    (x y : Int32) : pointerWrites d 0 x y = absWrites x y ++ [⟨EV_KEY, BTN_TOUCH, 0⟩, sync] := by
  have wheel : wheelWrites 0 = [] := by decide
  simp [pointerWrites, moveWrites, buttonWrites, none_down, left, right, middle, touch, absolute, wheel, Button.code,
    keyValue]

/-- Equal writes of every pointer event show that no button was held. -/
theorem released_of_writes (same : ∀ buttonMask x y,
    pointerWrites (d.reset istouch relative) buttonMask x y = pointerWrites d buttonMask x y) (b : Button) :
    d.clicked b = false := by
  have reset : ∀ b, (d.reset istouch relative).clicked b = false := by
    intro b
    cases b <;> rfl
  have values := congrArg (keyValues (b.code d.touch)) (same 0 0 0)
  rw [pointerWrites_idle reset, keyValues_moveWrites, keyValues_pointerWrites] at values
  cases clicked : d.clicked b with
  | false => rfl
  | true =>
    rw [clicked, none_down] at values
    revert values
    decide

theorem unnoticed_of_writes (same : ∀ buttonMask x y,
    pointerWrites (d.reset istouch relative) buttonMask x y = pointerWrites d buttonMask x y) :
    Unnoticed d istouch relative := by
  have released := released_of_writes same
  have reset : ∀ b, (d.reset istouch relative).clicked b = false := by
    intro b
    cases b <;> rfl
  have moves : ∀ x y, moveWrites (d.reset istouch relative) x y (x - 0) (y - 0) =
      moveWrites d x y (x - d.mLastX) (y - d.mLastY) := by
    intro x y
    have idle := same 0 x y
    rwa [pointerWrites_idle reset, pointerWrites_idle released] at idle
  have touch : istouch = d.touch := by
    have first := moves 0 0
    revert first
    cases istouch <;> cases touch : d.touch <;> cases relative <;> cases useRelativeInput : d.useRelativeInput <;>
      simp [moveWrites, Device.reset, touch, useRelativeInput, absWrites]
  subst touch
  have relatives : relative = d.useRelativeInput := by
    cases touch : d.touch with
    | false =>
      have types : ¬ EV_ABS = EV_REL := by decide
      have first := moves 0 0
      revert first
      cases relative <;> cases useRelativeInput : d.useRelativeInput <;>
        simp [moveWrites, Device.reset, touch, useRelativeInput, absWrites, types, Ne.symm types]
    | true =>
      have press := congrArg List.length (same 1 0 0)
      rw [pointerWrites_press reset touch, pointerWrites_press released touch] at press
      revert press
      cases relative <;> cases useRelativeInput : d.useRelativeInput <;>
        simp [Device.reset, absWrites]
  subst relatives
  refine ⟨released, rfl, rfl, fun mouse steps => ?_⟩
  have last := moves d.mLastX d.mLastY
  simpa [moveWrites, Device.reset, mouse, steps] using last

/-! ### The failing start -/

theorem Reached.unnoticed_iff (reached : Reached d) (opened : 0 ≤ d.mFD) :
    SameWrites d (d.reset istouch relative) ↔ Unnoticed d istouch relative := by
  have guard := reached.opened opened
  constructor
  · intro same
    apply unnoticed_of_writes
    intro buttonMask x y
    have succeed : Sys.succeeding.WritesSucceed := fun _ => rfl
    have streams : (pointerEvent .succeeding buttonMask x y (d.reset istouch relative)).2.stream =
        (pointerEvent .succeeding buttonMask x y d).2.stream :=
      congrArg (List.filterMap _) (same .succeeding [.pointer buttonMask x y])
    rw [pointerEvent_emit succeed buttonMask x y _ (show (d.reset istouch relative).mOpened = true from guard),
      pointerEvent_emit succeed buttonMask x y d guard, stream_emit, stream_emit] at streams
    exact List.append_cancel_left streams
  · rintro ⟨released, rfl, rfl, origin⟩ sys run
    have flags : d.reset d.touch d.useRelativeInput = d.movedTo 0 0 := by
      have left : d.mLeftClicked = false := released .left
      have right : d.mRightClicked = false := released .right
      have middle : d.mMiddleClicked = false := released .middle
      rw [Device.reset, Device.movedTo, left, right, middle]
    rw [flags]
    by_cases blind : d.touch = true ∨ d.useRelativeInput = false
    · exact run_blind guard blind 0 0 run
    · obtain ⟨mouse, steps⟩ := not_or.mp blind
      obtain ⟨lastX, lastY⟩ := origin (by simpa using mouse) (by simpa using steps)
      have same : d.movedTo d.mLastX d.mLastY = d := rfl
      rw [lastX, lastY] at same
      rw [same]

theorem sameInput_reset_iff :
    SameInput d (d.reset istouch relative) ↔
      (∀ b, d.clicked b = false) ∧ istouch = d.touch ∧ relative = d.useRelativeInput ∧
        d.mLastX = 0 ∧ d.mLastY = 0 := by
  have reset : ∀ b, (d.reset istouch relative).clicked b = false := by
    intro b
    cases b <;> rfl
  constructor
  · rintro ⟨clicked, lastX, lastY, touch, steps⟩
    exact ⟨fun b => (clicked b).symm.trans (reset b), touch, steps, lastX.symm, lastY.symm⟩
  · rintro ⟨released, touch, steps, lastX, lastY⟩
    exact ⟨fun b => (reset b).trans (released b).symm, lastX.symm, lastY.symm, touch, steps⟩

/-- A start that finds the device open fails. It leaves every later write as it was exactly if
`Unnoticed`, and the input state itself if that state is already the reset one. -/
theorem start_open_unnoticed_iff (reached : Reached d) (opened : 0 ≤ d.mFD) (sys : Sys)
    (width height : UInt32) (istouch relative : Bool) :
    (start sys width height istouch relative d).1 = .noInit ∧
      (SameWrites d (start sys width height istouch relative d).2 ↔ Unnoticed d istouch relative) ∧
      (SameInput d (start sys width height istouch relative d).2 ↔
        (∀ b, d.clicked b = false) ∧ istouch = d.touch ∧ relative = d.useRelativeInput ∧
          d.mLastX = 0 ∧ d.mLastY = 0) := by
  rw [start_open opened]
  exact ⟨rfl, reached.unnoticed_iff opened, sameInput_reset_iff⟩

theorem fresh_reached (width height : UInt32) (istouch relative : Bool) :
    Reached (freshDevice width height istouch relative) :=
  ⟨.succeeding, .closed, [.start width height istouch relative], rfl⟩

theorem fresh_pointed_reached (width height : UInt32) (istouch relative : Bool) (buttonMask x y : Int32) :
    Reached (pointerEvent .succeeding buttonMask x y (freshDevice width height istouch relative)).2 :=
  ⟨.succeeding, .closed, [.start width height istouch relative, .pointerEvent buttonMask x y], rfl⟩

theorem fresh_open (width height : UInt32) (istouch relative : Bool) :
    0 ≤ (freshDevice width height istouch relative).mFD := by
  have guarded : Guarded Device.closed := nofun
  have stays : Guarded (freshDevice width height istouch relative) :=
    (staysGuarded guarded (.start width height istouch relative)).1
  exact (stays (start_ok (start_fresh width height istouch relative)).opened).1

theorem start_open_fresh :
    (start .succeeding 1080 1920 false true (freshDevice 1080 1920 true false)).1 = .noInit ∧
      (SameWrites (freshDevice 1080 1920 true false)
          (start .succeeding 1080 1920 false true (freshDevice 1080 1920 true false)).2 ↔
        Unnoticed (freshDevice 1080 1920 true false) false true) ∧
      (SameInput (freshDevice 1080 1920 true false)
          (start .succeeding 1080 1920 false true (freshDevice 1080 1920 true false)).2 ↔
        (∀ b, (freshDevice 1080 1920 true false).clicked b = false) ∧
          false = (freshDevice 1080 1920 true false).touch ∧
          true = (freshDevice 1080 1920 true false).useRelativeInput ∧
          (freshDevice 1080 1920 true false).mLastX = 0 ∧ (freshDevice 1080 1920 true false).mLastY = 0) :=
  start_open_unnoticed_iff (fresh_reached 1080 1920 true false) (fresh_open 1080 1920 true false) .succeeding
    1080 1920 false true

def Device.pressed (d : Device) : Device := (pointerEvent .succeeding 1 10 20 d).2

/-- The left button is down on an absolute touch screen: its release is written, but not after the
device was reset. -/
theorem press_release {width height : UInt32} {before : Device}
    (fresh : Started width height true false before d) :
    d.pressed.clicked .left = true ∧ d.pressed.mFD = d.mFD ∧
      pointerWrites d.pressed 0 10 20 = absWrites 10 20 ++ [⟨EV_KEY, BTN_TOUCH, 0⟩, sync] ∧
      pointerWrites (d.pressed.reset true false) 0 10 20 = [] := by
  have pressed : d.pressed = (d.pointed 1 10 20).emit (pointerWrites d 1 10 20) :=
    pointerEvent_emit (fun _ => rfl) 1 10 20 d fresh.opened
  rw [pressed]
  refine ⟨rfl, rfl, ?_, ?_⟩
  · apply pointerWrites_release
    · rfl
    · rfl
    · rfl
    · exact fresh.touch
    · exact fresh.useRelativeInput
  · rw [pointerWrites_idle (fun b => by cases b <;> rfl)]
    rfl

/-- The left button is held when the device is started again: its release is never written. -/
theorem release_lost :
    let held := (freshDevice 1080 1920 true false).pressed
    Reached held ∧ 0 ≤ held.mFD ∧
      ¬ SameWrites held (start .succeeding 1080 1920 true false held).2 ∧
      pointerWrites held 0 10 20 = absWrites 10 20 ++ [⟨EV_KEY, BTN_TOUCH, 0⟩, sync] ∧
      pointerWrites (start .succeeding 1080 1920 true false held).2 0 10 20 = [] := by
  obtain ⟨held, descriptor, release, lost⟩ := press_release (start_ok (start_fresh 1080 1920 true false))
  have reached : Reached (freshDevice 1080 1920 true false).pressed :=
    fresh_pointed_reached 1080 1920 true false 1 10 20
  have opened : 0 ≤ ((freshDevice 1080 1920 true false).pressed).mFD := by
    rw [descriptor]
    exact fresh_open 1080 1920 true false
  refine ⟨reached, opened, ?_, release, ?_⟩
  · rw [start_open opened, reached.unnoticed_iff opened]
    intro unnoticed
    rw [unnoticed.released .left] at held
    cases held
  · rw [start_open opened]
    exact lost

end VncFlinger.Input
