import VncFlinger.Evdev

/-!
# The uinput device

The state of `InputDevice`, the two file-scope mode flags of `InputDevice.cpp`, and what the
kernel keeps for `/dev/uinput`. Every system call can fail: `Sys` gives the outcome of the n-th
call, so a statement about every `Sys` is one about every sequence of outcomes.
-/

namespace VncFlinger.Input
open Evdev

inductive Status where
  | ok | noInit | badValue | errno
  deriving DecidableEq, Repr

/-- The outcome of each system call, by the number of calls made before it. -/
structure Sys where
  openFd : Nat → Int
  ioctlOk : Nat → Bool
  writeOk : Nat → Bool

/-- Every call succeeds, and `open` returns descriptor 3. -/
def Sys.succeeding : Sys := ⟨fun _ => 3, fun _ => true, fun _ => true⟩

inductive SetBit where
  | evBit | relBit | absBit | propBit | keyBit
  deriving DecidableEq, Repr

structure UserDev where
  absminX : Int32 := 0
  absmaxX : Int32 := 0
  absminY : Int32 := 0
  absmaxY : Int32 := 0
  deriving DecidableEq, Repr

/-- One event handed to `write`: the descriptor it went to and whether the write succeeded. -/
structure Write where
  fd : Int
  event : InputEvent
  ok : Bool
  deriving DecidableEq, Repr

/-- What the kernel knows: open descriptors, those with a created device, the bits enabled on the
last one opened, and every event write so far. -/
structure Kernel where
  calls : Nat := 0
  opened : List Int := []
  created : List Int := []
  enabled : List (SetBit × UInt16) := []
  writes : List Write := []
  deriving DecidableEq, Repr

structure Device where
  touch : Bool := false
  useRelativeInput : Bool := false
  mFD : Int := -1
  mOpened : Bool
  mUserDev : UserDev := {}
  mLeftClicked : Bool
  mRightClicked : Bool
  mMiddleClicked : Bool
  mLastX : Int32
  mLastY : Int32
  kernel : Kernel := {}
  deriving DecidableEq, Repr

def Device.stream (d : Device) : List InputEvent :=
  d.kernel.writes.filterMap fun w => if w.ok then some w.event else none

/-- A device just opened in the given mode, with nothing written to it. -/
def Device.opened (touch relative : Bool) : Device :=
  { touch := touch, useRelativeInput := relative, mFD := 3, mOpened := true
    mLeftClicked := false, mRightClicked := false, mMiddleClicked := false, mLastX := 0, mLastY := 0
    kernel := { opened := [3], created := [3] } }

abbrev DeviceM := StateM Device

/-! ### System calls -/

def tick (k : Kernel) : Kernel := { k with calls := k.calls + 1 }

def sysOpen (sys : Sys) : DeviceM Int := fun d =>
  let fd := sys.openFd d.kernel.calls
  (fd, { d with kernel := { tick d.kernel with
    opened := if 0 ≤ fd then fd :: d.kernel.opened else d.kernel.opened
    enabled := if 0 ≤ fd then [] else d.kernel.enabled } })

def sysClose : DeviceM Unit := fun d =>
  ((), { d with kernel := { tick d.kernel with
    opened := d.kernel.opened.erase d.mFD
    created := d.kernel.created.erase d.mFD } })

/-- `ioctl` with one of the `UI_SET_*BIT` commands. -/
def setBit (sys : Sys) (cmd : SetBit) (bit : UInt16) : DeviceM Bool := fun d =>
  let ok := sys.ioctlOk d.kernel.calls
  (ok, { d with kernel := { tick d.kernel with
    enabled := if ok then d.kernel.enabled ++ [(cmd, bit)] else d.kernel.enabled } })

def devCreate (sys : Sys) : DeviceM Bool := fun d =>
  let ok := sys.ioctlOk d.kernel.calls
  (ok, { d with kernel := { tick d.kernel with
    created := if ok then d.mFD :: d.kernel.created else d.kernel.created } })

/-- `ioctl(mFD, UI_DEV_DESTROY)`; its result is not looked at. -/
def devDestroy (sys : Sys) : DeviceM Unit := fun d =>
  ((), { d with kernel := { tick d.kernel with
    created := if sys.ioctlOk d.kernel.calls then d.kernel.created.erase d.mFD else d.kernel.created } })

def writeUserDev (sys : Sys) : DeviceM Bool := fun d =>
  (sys.writeOk d.kernel.calls, { d with kernel := tick d.kernel })

/-! ### Starting and stopping -/

def kOptions : List (SetBit × UInt16) :=
  [(.evBit, EV_KEY), (.evBit, EV_REP), (.evBit, EV_REL), (.relBit, REL_X), (.relBit, REL_Y),
   (.relBit, REL_WHEEL), (.evBit, EV_ABS), (.absBit, ABS_X), (.absBit, ABS_Y), (.evBit, EV_SYN),
   (.propBit, INPUT_PROP_DIRECT)]

def mOptions : List (SetBit × UInt16) :=
  [(.evBit, EV_KEY), (.evBit, EV_REP), (.evBit, EV_REL), (.relBit, REL_X), (.relBit, REL_Y),
   (.relBit, REL_WHEEL), (.evBit, EV_ABS), (.absBit, ABS_X), (.absBit, ABS_Y), (.evBit, EV_SYN)]

/-- The key codes enabled one by one: all below `KEY_MAX` but the main button of the other mode. -/
def keyBits (touch : Bool) : List (SetBit × UInt16) :=
  (((List.range KEY_MAX).map Nat.toUInt16).filter fun idx =>
    !(!touch && idx == BTN_TOUCH) && !(touch && idx == BTN_MOUSE)).map fun idx => (.keyBit, idx)

def setBits (sys : Sys) : List (SetBit × UInt16) → DeviceM Bool
  | [] => pure true
  | (cmd, bit) :: rest => do
    if ← setBit sys cmd bit then setBits sys rest else pure false

def errIoctl : DeviceM Status := do
  sysClose
  modify fun d => { d with mFD := -1 }
  pure .noInit

/-- The part of `start` after the descriptor is open. -/
def setUp (sys : Sys) (width height : UInt32) (istouch relative : Bool) : DeviceM Status := do
  if !(← setBits sys (if istouch then kOptions else mOptions)) then errIoctl
  else if !(← setBits sys (keyBits istouch)) then errIoctl
  else
    modify fun d => { d with mUserDev :=
      if relative then {} else { absmaxX := width.toInt32, absmaxY := height.toInt32 } }
    if !(← writeUserDev sys) then errIoctl
    else if !(← devCreate sys) then errIoctl
    else
      modify fun d => { d with mOpened := true }
      pure .ok

def start (sys : Sys) (width height : UInt32) (istouch relative : Bool) : DeviceM Status := do
  modify fun d => { d with
    mLeftClicked := false, mMiddleClicked := false, mRightClicked := false
    mLastX := 0, mLastY := 0
    touch := istouch, useRelativeInput := relative }
  if 0 ≤ (← get).mFD then pure .noInit
  else
    let fd ← sysOpen sys
    modify fun d => { d with mFD := fd }
    if fd < 0 then pure .noInit
    else setUp sys width height istouch relative

def stop (sys : Sys) : DeviceM Status := do
  modify fun d => { d with mOpened := false }
  if (← get).mFD < 0 then pure .ok
  else
    devDestroy sys
    sysClose
    modify fun d => { d with mFD := -1 }
    pure .ok

/-- `start_async` runs `start` through `std::async` and drops the future, whose destructor waits
for the call to end. -/
def startAsync (sys : Sys) (width height : UInt32) (istouch relative : Bool) : DeviceM Status := do
  let _ ← start sys width height istouch relative
  pure .ok

def reconfigure (sys : Sys) (width height : UInt32) (istouch relative : Bool) : DeviceM Status := do
  let _ ← stop sys
  startAsync sys width height istouch relative

/-! ### Writing events -/

def inject (sys : Sys) (type code : UInt16) (value : Int32) : DeviceM Status := fun d =>
  let ok := sys.writeOk d.kernel.calls
  (if ok then .ok else .badValue, { d with kernel := { tick d.kernel with
    writes := d.kernel.writes ++ [⟨d.mFD, ⟨type, code, value⟩, ok⟩] } })

def press (sys : Sys) (code : UInt16) : DeviceM Status := inject sys EV_KEY code 1

def release (sys : Sys) (code : UInt16) : DeviceM Status := inject sys EV_KEY code 0

/-! ### Sequencing -/

@[simp] theorem bind_apply {α β : Type} (x : DeviceM α) (f : α → DeviceM β) (d : Device) :
    (x >>= f) d = f (x d).1 (x d).2 := rfl

@[simp] theorem pure_apply {α : Type} (a : α) (d : Device) : (pure a : DeviceM α) d = (a, d) := rfl

@[simp] theorem map_apply {α β : Type} (f : α → β) (x : DeviceM α) (d : Device) :
    (f <$> x) d = (f (x d).1, (x d).2) := rfl

@[simp] theorem get_apply (d : Device) : (get : DeviceM Device) d = (d, d) := rfl

@[simp] theorem modify_apply (f : Device → Device) (d : Device) :
    (modify f : DeviceM PUnit) d = (⟨⟩, f d) := rfl

theorem ite_apply {α : Type} (c : Prop) [Decidable c] (x y : DeviceM α) (d : Device) :
    (if c then x else y) d = if c then x d else y d := by
  split <;> rfl

/-! ### A successful start -/

structure Started (width height : UInt32) (istouch relative : Bool) (before after : Device) : Prop where
  opened : after.mOpened = true
  touch : after.touch = istouch
  useRelativeInput : after.useRelativeInput = relative
  left : after.mLeftClicked = false
  right : after.mRightClicked = false
  middle : after.mMiddleClicked = false
  lastX : after.mLastX = 0
  lastY : after.mLastY = 0
  userDev : after.mUserDev =
    if relative then {} else { absmaxX := width.toInt32, absmaxY := height.toInt32 }
  stream : after.stream = before.stream

/-- Neither descriptors nor devices nor events were added or taken away. -/
structure Kernel.Kept (k k' : Kernel) : Prop where
  opened : k'.opened = k.opened
  created : k'.created = k.created
  writes : k'.writes = k.writes

theorem Kernel.Kept.trans {k k' k'' : Kernel} (first : k.Kept k') (second : k'.Kept k'') : k.Kept k'' :=
  ⟨second.opened.trans first.opened, second.created.trans first.created, second.writes.trans first.writes⟩

theorem setBits_frame (sys : Sys) (bits : List (SetBit × UInt16)) (d : Device) :
    ∃ kernel : Kernel, (setBits sys bits d).2 = { d with kernel := kernel } ∧ d.kernel.Kept kernel := by
  induction bits generalizing d with
  | nil => exact ⟨d.kernel, rfl, rfl, rfl, rfl⟩
  | cons entry rest ih =>
    obtain ⟨cmd, bit⟩ := entry
    simp only [setBits, bind_apply, ite_apply, pure_apply]
    split
    · obtain ⟨kernel, same, opened, created, writes⟩ := ih (setBit sys cmd bit d).2
      exact ⟨kernel, same, opened, created, writes⟩
    · exact ⟨_, rfl, rfl, rfl, rfl⟩

theorem noInit_not_ok {d d' : Device} : (pure .noInit : DeviceM Status) d ≠ (.ok, d') := by
  intro same
  have failed : Status.noInit = .ok := congrArg Prod.fst same
  exact absurd failed (by decide)

/-- A step that succeeded goes on where `err_ioctl` is the alternative. -/
theorem orErr_apply {x : DeviceM Bool} {rest : DeviceM Status} {d : Device} (succeeded : (x d).1 = true) :
    (x >>= fun b => if !b then errIoctl else rest) d = rest (x d).2 := by
  rw [bind_apply, succeeded]
  rfl

theorem orErr_ok {x : DeviceM Bool} {rest : DeviceM Status} {d d' : Device}
    (ok : (x >>= fun b => if !b then errIoctl else rest) d = (.ok, d')) :
    (x d).1 = true ∧ rest (x d).2 = (.ok, d') := by
  cases result : (x d).1 with
  | true =>
    rw [orErr_apply result] at ok
    exact ⟨rfl, ok⟩
  | false =>
    rw [bind_apply, result] at ok
    exact absurd ok noInit_not_ok

theorem setUp_ok {sys : Sys} {width height : UInt32} {istouch relative : Bool} {d d' : Device}
    (ok : setUp sys width height istouch relative d = (.ok, d')) :
    ∃ kernel : Kernel, kernel.writes = d.kernel.writes ∧ d' = { d with
      mUserDev := if relative then {} else { absmaxX := width.toInt32, absmaxY := height.toInt32 }
      mOpened := true
      kernel := kernel } := by
  unfold setUp at ok
  obtain ⟨options, optionsEq, optionsKept⟩ :=
    setBits_frame sys (if istouch then kOptions else mOptions) d
  obtain ⟨keys, keysEq, keysKept⟩ := setBits_frame sys (keyBits istouch) { d with kernel := options }
  have ok := (orErr_ok ok).2
  rw [optionsEq] at ok
  have ok := (orErr_ok ok).2
  rw [keysEq, bind_apply, modify_apply] at ok
  have ok := (orErr_ok (orErr_ok ok).2).2
  rw [bind_apply, modify_apply, pure_apply] at ok
  have same := (Prod.mk.inj ok).2
  subst same
  refine ⟨_, ?_, rfl⟩
  exact keysKept.writes.trans optionsKept.writes

/-- What `start` sets before it looks at the descriptor. -/
def Device.reset (d : Device) (istouch relative : Bool) : Device :=
  { d with
    mLeftClicked := false, mMiddleClicked := false, mRightClicked := false
    mLastX := 0, mLastY := 0
    touch := istouch, useRelativeInput := relative }

def Device.opening (sys : Sys) (d : Device) : Device :=
  { (sysOpen sys d).2 with mFD := sys.openFd d.kernel.calls }

theorem start_apply (sys : Sys) (width height : UInt32) (istouch relative : Bool) (d : Device) :
    start sys width height istouch relative d =
      if 0 ≤ d.mFD then (.noInit, d.reset istouch relative)
      else if sys.openFd d.kernel.calls < 0 then (.noInit, (d.reset istouch relative).opening sys)
      else setUp sys width height istouch relative ((d.reset istouch relative).opening sys) := by
  unfold start
  rw [bind_apply, modify_apply, bind_apply, get_apply, ite_apply]
  by_cases already : 0 ≤ d.mFD
  · rw [if_pos (by exact already), if_pos already]
    rfl
  · rw [if_neg (by exact already), if_neg already, bind_apply, bind_apply, modify_apply, ite_apply]
    rfl

theorem start_setUp {sys : Sys} {width height : UInt32} {istouch relative : Bool} {d d' : Device}
    (ok : start sys width height istouch relative d = (.ok, d')) :
    0 ≤ sys.openFd d.kernel.calls ∧
      setUp sys width height istouch relative ((d.reset istouch relative).opening sys) = (.ok, d') := by
  rw [start_apply] at ok
  split_ifs at ok with already failed
  · cases congrArg Prod.fst ok
  · cases congrArg Prod.fst ok
  · exact ⟨Int.not_lt.mp failed, ok⟩

theorem start_ok {sys : Sys} {width height : UInt32} {istouch relative : Bool} {d d' : Device}
    (ok : start sys width height istouch relative d = (.ok, d')) :
    Started width height istouch relative d d' := by
  obtain ⟨kernel, writes, same⟩ := setUp_ok (start_setUp ok).2
  subst same
  exact ⟨rfl, rfl, rfl, rfl, rfl, rfl, rfl, rfl, rfl, by rw [Device.stream, writes]; rfl⟩

/-! ### When every call succeeds -/

/-- Every call to open, configure or write the device succeeds. -/
structure Sys.Succeeds (sys : Sys) : Prop where
  openFd : ∀ n, 0 ≤ sys.openFd n
  ioctlOk : ∀ n, sys.ioctlOk n = true
  writeOk : ∀ n, sys.writeOk n = true

theorem setBits_succeeds {sys : Sys} (succeeds : sys.Succeeds) (bits : List (SetBit × UInt16)) (d : Device) :
    (setBits sys bits d).1 = true := by
  induction bits generalizing d with
  | nil => rfl
  | cons entry rest ih =>
    obtain ⟨cmd, bit⟩ := entry
    have first : (setBit sys cmd bit d).1 = true := succeeds.ioctlOk _
    rw [setBits, bind_apply, first]
    exact ih _

theorem setUp_succeeds {sys : Sys} (succeeds : sys.Succeeds) (width height : UInt32)
    (istouch relative : Bool) (d : Device) : (setUp sys width height istouch relative d).1 = .ok := by
  unfold setUp
  rw [orErr_apply (setBits_succeeds succeeds _ _), orErr_apply (setBits_succeeds succeeds _ _), bind_apply,
    modify_apply, orErr_apply (by exact succeeds.writeOk _), orErr_apply (by exact succeeds.ioctlOk _)]
  rfl

theorem start_succeeds {sys : Sys} (succeeds : sys.Succeeds) (width height : UInt32)
    (istouch relative : Bool) {d : Device} (closed : d.mFD < 0) :
    (start sys width height istouch relative d).1 = .ok := by
  rw [start_apply, if_neg (Int.not_le.mpr closed), if_neg (Int.not_lt.mpr (succeeds.openFd _))]
  exact setUp_succeeds succeeds width height istouch relative _

theorem stop_closed (sys : Sys) (d : Device) : (stop sys d).2.mFD < 0 := by
  unfold stop
  rw [bind_apply, modify_apply, bind_apply, get_apply, ite_apply]
  split
  · rename_i closed
    exact closed
  · exact (by decide : (-1 : Int) < 0)

/-- A device that can be opened is freshly started by `reconfigure`, whatever it was before. -/
theorem reconfigure_started {sys : Sys} (succeeds : sys.Succeeds) (width height : UInt32)
    (istouch relative : Bool) (d : Device) :
    Started width height istouch relative (stop sys d).2 (reconfigure sys width height istouch relative d).2 :=
  start_ok (Prod.ext (start_succeeds succeeds width height istouch relative (stop_closed sys d)) rfl)

theorem succeeding_succeeds : Sys.succeeding.Succeeds := by
  constructor <;> intro n <;> first | rfl | exact Int.natCast_nonneg 3

def Device.closed : Device :=
  { mOpened := false, mLeftClicked := false, mRightClicked := false, mMiddleClicked := false
    mLastX := 0, mLastY := 0 }

def freshDevice (width height : UInt32) (istouch relative : Bool) : Device :=
  (start .succeeding width height istouch relative .closed).2

theorem start_fresh (width height : UInt32) (istouch relative : Bool) :
    start .succeeding width height istouch relative .closed =
      (.ok, freshDevice width height istouch relative) :=
  Prod.ext (start_succeeds succeeding_succeeds _ _ _ _ (by decide)) rfl

/-! ### Successful writes -/

def Sys.WritesSucceed (sys : Sys) : Prop := ∀ n, sys.writeOk n = true

/-- The device after writing `events` to its descriptor. -/
def Device.emit (d : Device) (events : List InputEvent) : Device :=
  { d with kernel := { d.kernel with
    calls := d.kernel.calls + events.length
    writes := d.kernel.writes ++ events.map fun event => ⟨d.mFD, event, true⟩ } }

@[simp] theorem emit_nil (d : Device) : d.emit [] = d := by simp [Device.emit]

@[simp] theorem emit_emit (d : Device) (first second : List InputEvent) :
    (d.emit first).emit second = d.emit (first ++ second) := by
  simp [Device.emit, Nat.add_assoc]

theorem stream_emit (d : Device) (events : List InputEvent) :
    (d.emit events).stream = d.stream ++ events := by
  simp [Device.stream, Device.emit, List.filterMap_append, List.filterMap_map]

theorem inject_emit {sys : Sys} (succeed : sys.WritesSucceed) (type code : UInt16) (value : Int32)
    (d : Device) : inject sys type code value d = (.ok, d.emit [⟨type, code, value⟩]) := by
  simp [inject, succeed d.kernel.calls, Device.emit, tick]

end VncFlinger.Input
