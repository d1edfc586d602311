import VncFlinger.Library.Runs
import VncFlinger.Input.Pointer

/-!
# The guard and the descriptor

`keyEvent` and `pointerEvent` write if `mOpened` is set, to the descriptor `mFD`. Every operation
keeps the two in step; the constructor sets `mFD` only.
-/

namespace VncFlinger.Input
open Evdev

/-! ### What writing events leaves alone -/

/-- Only events were written, all of them to the descriptor. -/
structure Injected (d d' : Device) : Prop where
  mFD : d'.mFD = d.mFD
  mOpened : d'.mOpened = d.mOpened
  touch : d'.touch = d.touch
  useRelativeInput : d'.useRelativeInput = d.useRelativeInput
  opened : d'.kernel.opened = d.kernel.opened
  created : d'.kernel.created = d.kernel.created
  writes : ∃ ws, d'.kernel.writes = d.kernel.writes ++ ws ∧ ∀ w ∈ ws, w.fd = d.mFD

theorem Injected.of_kernel {d d' : Device} (mFD : d'.mFD = d.mFD) (mOpened : d'.mOpened = d.mOpened)
    (touch : d'.touch = d.touch) (relative : d'.useRelativeInput = d.useRelativeInput)
    (kernel : d'.kernel = d.kernel) : Injected d d' := by
  refine ⟨mFD, mOpened, touch, relative, ?_, ?_, [], ?_, by simp⟩ <;> rw [kernel]
  exact (List.append_nil _).symm

theorem Injected.refl (d : Device) : Injected d d := .of_kernel rfl rfl rfl rfl rfl

theorem Injected.trans {d d' d'' : Device} (first : Injected d d') (second : Injected d' d'') :
    Injected d d'' := by
  obtain ⟨earlier, wrote, there⟩ := first.writes
  obtain ⟨later, wrote', there'⟩ := second.writes
  refine ⟨second.mFD.trans first.mFD, second.mOpened.trans first.mOpened, second.touch.trans first.touch,
    second.useRelativeInput.trans first.useRelativeInput, second.opened.trans first.opened,
    second.created.trans first.created, earlier ++ later, ?_, ?_⟩
  · rw [wrote', wrote, List.append_assoc]
  · intro w member
    rcases List.mem_append.mp member with before | after
    · exact there w before
    · exact (there' w after).trans first.mFD

def Injects {α : Type} (x : DeviceM α) : Prop := ∀ d, Injected d (x d).2

section Composition

variable {α β : Type} {x y : DeviceM α}

theorem injects_pure (a : α) : Injects (pure a : DeviceM α) := Injected.refl

theorem injects_get : Injects (get : DeviceM Device) := Injected.refl

theorem injects_bind {f : α → DeviceM β} (first : Injects x) (rest : ∀ a, Injects (f a)) :
    Injects (x >>= f) := fun d => (first d).trans (rest _ _)

theorem injects_ite {c : Prop} [Decidable c] (yes : Injects x) (no : Injects y) :
    Injects (if c then x else y) := by
  split
  · exact yes
  · exact no

theorem injects_modify {f : Device → Device} (keep : ∀ d, Injected d (f d)) :
    Injects (modify f : DeviceM PUnit) := keep

theorem injects_inject (sys : Sys) (type code : UInt16) (value : Int32) :
    Injects (inject sys type code value) := by
  intro d
  refine ⟨rfl, rfl, rfl, rfl, rfl, rfl, _, rfl, ?_⟩
  intro w member
  rw [List.mem_singleton.mp member]

end Composition

section Events

variable (sys : Sys)

theorem injects_report : Injects (report sys) :=
  injects_bind (injects_inject sys _ _ _) fun _ => injects_pure _

theorem composes_injects : Composes sys sys fun _ x _ => Injects x where
  returns := injects_pure
  sequence := injects_bind
  injected := injects_inject sys
  guarded := fun rest => injects_bind injects_get fun _ => injects_ite (injects_pure _) rest

theorem injects_injectAbs (x y : Int32) : Injects (injectAbs sys x y) := by
  apply injects_bind (injects_inject sys _ _ _)
  intro _
  exact injects_bind (injects_inject sys _ _ _) fun _ => injects_pure _

theorem injects_movePart (x y diffX diffY : Int32) : Injects (movePart sys x y diffX diffY) := by
  apply injects_bind injects_get
  intro d
  refine injects_ite ?_ (injects_pure _)
  apply injects_bind injects_get
  intro d
  apply injects_ite
  · exact injects_bind (injects_injectAbs sys x y) fun _ => injects_report sys
  · apply injects_bind (injects_inject sys _ _ _)
    intro _
    exact injects_bind (injects_inject sys _ _ _) fun _ => injects_report sys

theorem setClicked_injected (d : Device) (b : Button) (v : Bool) : Injected d (d.setClicked b v) := by
  cases b <;> exact .of_kernel rfl rfl rfl rfl rfl

theorem injects_buttonPart (b : Button) (position down : Bool) (x y : Int32) :
    Injects (buttonPart sys b position down x y) := by
  have key : ∀ value : UInt16 × Int32, Injects (inject sys EV_KEY value.1 value.2 >>= fun _ => report sys) := fun value =>
    injects_bind (injects_inject sys _ _ _) fun _ => injects_report sys
  have change : ∀ v (sent : Bool) (value : UInt16 × Int32), Injects ((modify fun d => d.setClicked b v) >>= fun _ =>
      if sent then injectAbs sys x y >>= fun _ => inject sys EV_KEY value.1 value.2 >>= fun _ => report sys
      else inject sys EV_KEY value.1 value.2 >>= fun _ => report sys) := by
    intro v sent value
    apply injects_bind (injects_modify fun d => setClicked_injected d b v)
    intro _
    exact injects_ite (injects_bind (injects_injectAbs sys x y) fun _ => key value) (key value)
  apply injects_bind injects_get
  intro d
  apply injects_ite (change true (position && !d.useRelativeInput) (b.code d.touch, 1))
  apply injects_ite (change false (position && !d.useRelativeInput) (b.code d.touch, 0))
  refine injects_ite ?_ (injects_pure _)
  exact injects_bind (injects_injectAbs sys x y) fun _ => injects_report sys

theorem injects_wheelPart (turned : Bool) (value : Int32) : Injects (wheelPart sys turned value) :=
  injects_ite (injects_bind (injects_inject sys _ _ _) fun _ => injects_report sys) (injects_pure _)

theorem injects_pointerEvent (buttonMask x y : Int32) : Injects (pointerEvent sys buttonMask x y) := by
  apply injects_bind injects_get
  intro d
  apply injects_ite (injects_pure _)
  apply injects_bind injects_get
  intro d
  have moved : ∀ d : Device, Injected d { d with mLastX := x, mLastY := y } := fun d =>
    .of_kernel rfl rfl rfl rfl rfl
  apply injects_bind (injects_modify moved)
  intro _
  apply injects_bind (injects_movePart sys x y _ _)
  intro _
  apply injects_bind (injects_buttonPart sys .left true _ x y)
  intro _
  apply injects_bind (injects_buttonPart sys .right false _ x y)
  intro _
  apply injects_bind (injects_buttonPart sys .middle false _ x y)
  intro _
  exact injects_bind (injects_wheelPart sys _ _) fun _ => injects_wheelPart sys _ _

end Events

/-! ### How `start` and `stop` end -/

/-- No descriptor after a failure, and `mOpened` as it was; the descriptor with its device, and
`mOpened` set, after success. -/
inductive SetUp (d d' : Device) : Prop
  | failed (mFD : d'.mFD < 0) (mOpened : d'.mOpened = d.mOpened)
      (writes : d'.kernel.writes = d.kernel.writes)
  | created (mFD : d'.mFD = d.mFD) (mOpened : d'.mOpened = true)
      (opened : d'.kernel.opened = d.kernel.opened) (created : d.mFD ∈ d'.kernel.created)
      (writes : d'.kernel.writes = d.kernel.writes)

inductive Begun (d d' : Device) : Prop
  | already (opened : 0 ≤ d.mFD) (mFD : d'.mFD = d.mFD) (mOpened : d'.mOpened = d.mOpened)
      (kernel : d'.kernel = d.kernel)
  | failed (closed : d.mFD < 0) (mFD : d'.mFD < 0) (mOpened : d'.mOpened = d.mOpened)
      (writes : d'.kernel.writes = d.kernel.writes)
  | started (mFD : 0 ≤ d'.mFD) (mOpened : d'.mOpened = true) (opened : d'.mFD ∈ d'.kernel.opened)
      (created : d'.mFD ∈ d'.kernel.created) (writes : d'.kernel.writes = d.kernel.writes)

theorem errIoctl_failed {d d' : Device} (mOpened : d'.mOpened = d.mOpened)
    (writes : d'.kernel.writes = d.kernel.writes) : SetUp d (errIoctl d').2 :=
  .failed (by show (-1 : Int) < 0; decide) mOpened writes

theorem orErr_setUp {x : DeviceM Bool} {rest : DeviceM Status} {d d' : Device}
    (mOpened : (x d').2.mOpened = d.mOpened) (writes : (x d').2.kernel.writes = d.kernel.writes)
    (succeeded : (x d').1 = true → SetUp d (rest (x d').2).2) :
    SetUp d ((x >>= fun b => if !b then errIoctl else rest) d').2 := by
  cases result : (x d').1 with
  | true =>
    rw [orErr_apply result]
    exact succeeded result
  | false =>
    rw [bind_apply, result]
    exact errIoctl_failed mOpened writes

theorem devCreate_created {sys : Sys} {d : Device} (created : (devCreate sys d).1 = true) :
    d.mFD ∈ (devCreate sys d).2.kernel.created := by
  have ok : sys.ioctlOk d.kernel.calls = true := created
  simp [devCreate, ok]

theorem sysOpen_opened {sys : Sys} {d : Device} (opened : 0 ≤ (sysOpen sys d).1) :
    (sysOpen sys d).1 ∈ (sysOpen sys d).2.kernel.opened := by
  have ok : 0 ≤ sys.openFd d.kernel.calls := opened
  simp [sysOpen, ok]

variable (sys : Sys) (width height : UInt32) (istouch relative : Bool) (d : Device)

theorem setUp_setUp : SetUp d (setUp sys width height istouch relative d).2 := by
  obtain ⟨options, optionsEq, optionsKept⟩ :=
    setBits_frame sys (if istouch then kOptions else mOptions) d
  obtain ⟨keys, keysEq, keysKept⟩ := setBits_frame sys (keyBits istouch) { d with kernel := options }
  have kept := optionsKept.trans keysKept
  unfold setUp
  refine orErr_setUp ?_ ?_ fun _ => ?_
  · rw [optionsEq]
  · rw [optionsEq]
    exact optionsKept.writes
  rw [optionsEq]
  refine orErr_setUp ?_ ?_ fun _ => ?_
  · rw [keysEq]
  · rw [keysEq]
    exact kept.writes
  rw [keysEq, bind_apply, modify_apply]
  refine orErr_setUp rfl kept.writes fun _ => ?_
  refine orErr_setUp rfl kept.writes fun created => ?_
  refine .created rfl rfl kept.opened ?_ kept.writes
  exact devCreate_created created

theorem start_begun : Begun d (start sys width height istouch relative d).2 := by
  rw [start_apply]
  split_ifs with already failed
  · exact .already already rfl rfl rfl
  · exact .failed (Int.not_le.mp already) failed rfl rfl
  · have closed : d.mFD < 0 := Int.not_le.mp already
    have opened : 0 ≤ sys.openFd d.kernel.calls := Int.not_lt.mp failed
    cases setUp_setUp sys width height istouch relative _ with
    | failed mFD mOpened writes => exact .failed closed mFD mOpened writes
    | created mFD mOpened files created writes =>
      refine .started ?_ mOpened ?_ ?_ writes
      · rw [mFD]
        exact opened
      · rw [mFD, files]
        exact sysOpen_opened opened
      · rw [mFD]
        exact created

theorem stop_leaves : (stop sys d).2.mOpened = false ∧ (stop sys d).2.kernel.writes = d.kernel.writes := by
  unfold stop
  rw [bind_apply, modify_apply, bind_apply, get_apply, ite_apply]
  split <;> exact ⟨rfl, rfl⟩

/-! ### Runs of operations -/

inductive Operation where
  | start (width height : UInt32) (istouch relative : Bool)
  | startAsync (width height : UInt32) (istouch relative : Bool)
  | reconfigure (width height : UInt32) (istouch relative : Bool)
  | stop
  | keyEvent (down : Bool) (keysym : UInt32)
  | pointerEvent (buttonMask x y : Int32)
  deriving DecidableEq, Repr

def operate (sys : Sys) (d : Device) : Operation → Device
  | .start width height istouch relative => (start sys width height istouch relative d).2
  | .startAsync width height istouch relative => (startAsync sys width height istouch relative d).2
  | .reconfigure width height istouch relative => (reconfigure sys width height istouch relative d).2
  | .stop => (stop sys d).2
  | .keyEvent down keysym => (keyEvent sys down keysym d).2
  | .pointerEvent buttonMask x y => (pointerEvent sys buttonMask x y d).2

/-- The constructor sets `mFD`. The other members hold what `members` does. -/
def Device.constructed (members : Device) : Device := { members with mFD := -1, kernel := {} }

def Guarded (d : Device) : Prop :=
  d.mOpened = true → 0 ≤ d.mFD ∧ d.mFD ∈ d.kernel.opened ∧ d.mFD ∈ d.kernel.created

/-- Every event of the operation goes to an open descriptor with a created device. -/
def WritesToDevice (sys : Sys) (d : Device) (op : Operation) : Prop :=
  ∀ w ∈ (operate sys d op).kernel.writes.drop d.kernel.writes.length,
    0 ≤ w.fd ∧ w.fd ∈ d.kernel.opened ∧ w.fd ∈ d.kernel.created

def StaysGuarded (sys : Sys) (d : Device) (op : Operation) : Prop :=
  Guarded (operate sys d op) ∧ WritesToDevice sys d op

section Operations

variable {sys : Sys} {d d' : Device} {op : Operation}

theorem Begun.guarded (begun : Begun d d') (guarded : Guarded d) : Guarded d' := by
  intro opened
  cases begun with
  | already _ mFD mOpened kernel =>
    rw [mFD, kernel]
    exact guarded (mOpened.symm.trans opened)
  | failed closed _ mOpened _ =>
    have device := guarded (mOpened.symm.trans opened)
    omega
  | started mFD _ files created _ => exact ⟨mFD, files, created⟩

theorem Begun.writes (begun : Begun d d') : d'.kernel.writes = d.kernel.writes := by
  cases begun with
  | already _ _ _ kernel => rw [kernel]
  | failed _ _ _ writes => exact writes
  | started _ _ _ _ writes => exact writes

theorem Injected.guarded (injected : Injected d d') (guarded : Guarded d) : Guarded d' := by
  intro opened
  rw [injected.mFD, injected.opened, injected.created]
  exact guarded (injected.mOpened.symm.trans opened)

/-- An event is injected, or the guard stops it. -/
theorem writesToDevice_event (guarded : Guarded d) (injected : Injected d (operate sys d op))
    (stopped : d.mOpened = false → operate sys d op = d) : WritesToDevice sys d op := by
  intro w member
  cases opened : d.mOpened with
  | false =>
    rw [stopped opened, List.drop_length] at member
    cases member
  | true =>
    obtain ⟨ws, wrote, there⟩ := injected.writes
    rw [wrote, List.drop_left] at member
    rw [there w member]
    exact guarded opened

theorem writesToDevice_silent (same : (operate sys d op).kernel.writes = d.kernel.writes) :
    WritesToDevice sys d op := by
  intro w member
  rw [same, List.drop_length] at member
  cases member

theorem stop_guarded : Guarded (stop sys d).2 := by
  intro opened
  rw [(stop_leaves sys d).1] at opened
  cases opened

theorem staysGuarded (guarded : Guarded d) (op : Operation) : StaysGuarded sys d op := by
  cases op with
  | start width height istouch relative | startAsync width height istouch relative =>
    have begun := start_begun sys width height istouch relative d
    exact ⟨begun.guarded guarded, writesToDevice_silent begun.writes⟩
  | reconfigure width height istouch relative =>
    have begun := start_begun sys width height istouch relative (stop sys d).2
    exact ⟨begun.guarded stop_guarded, writesToDevice_silent (begun.writes.trans (stop_leaves sys d).2)⟩
  | stop => exact ⟨stop_guarded, writesToDevice_silent (stop_leaves sys d).2⟩
  | keyEvent down keysym =>
    have injected := (composes_injects sys).keyEvent down keysym d
    refine ⟨injected.guarded guarded, writesToDevice_event guarded injected fun closed => ?_⟩
    simp [operate, keyEvent, closed]
  | pointerEvent buttonMask x y =>
    have injected := injects_pointerEvent sys buttonMask x y d
    refine ⟨injected.guarded guarded, writesToDevice_event guarded injected fun closed => ?_⟩
    simp [operate, pointerEvent, closed]

/-- The first event of a key change is written, whatever becomes of it. -/
theorem doKeyboardEvent_writes (code : UInt16) (down : Bool) :
    ∃ w ∈ (doKeyboardEvent sys code down d).2.kernel.writes.drop d.kernel.writes.length, w.fd = d.mFD := by
  have rest : Injects (if down then
      press sys code >>= fun status =>
        if status != .ok then pure .errno
        else inject sys EV_SYN SYN_REPORT 0 >>= fun _ => pure .ok
    else
      release sys code >>= fun status =>
        if status != .ok then pure .errno
        else inject sys EV_SYN SYN_REPORT 0 >>= fun _ => pure Status.ok) :=
    injects_ite ((composes_injects sys).key _ _ _ _) ((composes_injects sys).key _ _ _ _)
  obtain ⟨later, wrote', _⟩ := (rest (inject sys EV_SYN SYN_REPORT 0 d).2).writes
  have first : (doKeyboardEvent sys code down d).2.kernel.writes = d.kernel.writes ++
      ⟨d.mFD, ⟨EV_SYN, SYN_REPORT, 0⟩, sys.writeOk d.kernel.calls⟩ :: later := by
    refine wrote'.trans ?_
    show (d.kernel.writes ++ [_]) ++ later = _
    rw [List.append_assoc]
    rfl
  rw [first, List.drop_left]
  exact ⟨_, List.mem_cons_self, rfl⟩

theorem letter_writes (opened : d.mOpened = true) :
    ∃ w ∈ (operate sys d (.keyEvent true XK_a)).kernel.writes.drop d.kernel.writes.length, w.fd = d.mFD := by
  have path : operate sys d (.keyEvent true XK_a) = (doKeyboardEvent sys KEY_A true d).2 := by
    have unknown : latinKey (fixUnknown XK_a) = none := by decide
    have special : spicialKeysymToDirectKey.find? (·.keysym == fixUnknown XK_a) = none := by decide
    have symbol : symbolKeysymToDirectKey.find? (·.keysym == fixUnknown XK_a) = none := by decide
    have letter : basicKey (fixUnknown XK_a).toUInt16 = (false, KEY_A) := by decide
    have known : ¬ KEY_A = 0 := by decide
    simp [operate, keyEvent, opened, unknown, special, symbol, doBasicKeyEvent, letter, known]
  rw [path]
  exact doKeyboardEvent_writes KEY_A true

end Operations

/-- The guard is sound in every state of every run, and every event has its device, exactly if the
constructor leaves `mOpened` clear. -/
theorem guarded_from_constructor_iff (sys : Sys) (members : Device) :
    (∀ run, Guarded members.constructed ∧
        Runs.Along (operate sys) (StaysGuarded sys) members.constructed run ↔ members.mOpened = false) ∧
      ((∀ run, Runs.Along (operate sys) (WritesToDevice sys) members.constructed run) ↔
        members.mOpened = false) := by
  have start : members.mOpened = false → Guarded members.constructed := fun closed opened => by
    rw [show members.constructed.mOpened = members.mOpened from rfl, closed] at opened
    cases opened
  have along : ∀ run, members.mOpened = false →
      Runs.Along (operate sys) (StaysGuarded sys) members.constructed run := fun run closed =>
    Runs.along_of_invariant (start closed) fun _ op _ guarded =>
      ⟨staysGuarded guarded op, (staysGuarded guarded op).1⟩
  refine ⟨fun run => ⟨?_, fun closed => ⟨start closed, along run closed⟩⟩, ?_, fun closed run => ?_⟩
  · rintro ⟨guarded, _⟩
    by_contra opened
    have device := (guarded (Bool.of_not_eq_false opened)).1
    exact absurd device (show ¬ (0 : Int) ≤ -1 by decide)
  · intro writes
    by_contra opened
    have garbage : members.constructed.mOpened = true := Bool.of_not_eq_false opened
    obtain ⟨w, written, there⟩ := @letter_writes sys _ garbage
    have device := (writes [.keyEvent true XK_a]).1 w written
    rw [there] at device
    exact absurd device.1 (show ¬ (0 : Int) ≤ -1 by decide)
  · exact Runs.along_of_invariant (start closed) fun _ op _ guarded =>
      ⟨(staysGuarded guarded op).2, (staysGuarded guarded op).1⟩

/-- The memory of the object held a one where `mOpened` is: the first event is written to
descriptor -1. -/
theorem event_before_start :
    let members : Device := { Device.closed with mOpened := true }
    ¬ Guarded members.constructed ∧
      ((operate .succeeding members.constructed (.pointerEvent 1 10 20)).kernel.writes.map Write.fd).head? =
        some (-1) := by
  refine ⟨fun guarded => ?_, by decide⟩
  have device := (guarded rfl).1
  exact absurd device (by decide)

end VncFlinger.Input
