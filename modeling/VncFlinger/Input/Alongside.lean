import VncFlinger.Library.Alike
import VncFlinger.Input.Pointer

/-!
# Two devices side by side

Nothing is left of the modes, flags and positions of a device once it is reconfigured. Two devices with
the same descriptor, whose system calls are answered alike from then on, write the same events.
-/

namespace VncFlinger.Input
open Evdev

/-- The system will answer both alike, and has been handed the same writes since these. -/
structure Matches (sys sys' : Sys) (earlier earlier' : List Write) (k k' : Kernel) : Prop where
  openFd : ∀ n, sys'.openFd (k'.calls + n) = sys.openFd (k.calls + n)
  ioctlOk : ∀ n, sys'.ioctlOk (k'.calls + n) = sys.ioctlOk (k.calls + n)
  writeOk : ∀ n, sys'.writeOk (k'.calls + n) = sys.writeOk (k.calls + n)
  writes : ∃ later, k.writes = earlier ++ later ∧ k'.writes = earlier' ++ later

/-- Before the first reconfiguration the descriptor alone counts. -/
structure Attends (sys sys' : Sys) (earlier earlier' : List Write) (d d' : Device) : Prop where
  mFD : d'.mFD = d.mFD
  kernel : Matches sys sys' earlier earlier' d.kernel d'.kernel

/-- Another kernel beside the device, and other values in what is only read after it is set. -/
def Device.beside (d : Device) (userDev : UserDev) (kernel : Kernel) : Device :=
  { d with mUserDev := userDev, kernel := kernel }

def Alongside (sys sys' : Sys) (earlier earlier' : List Write) (d d' : Device) : Prop :=
  ∃ userDev kernel, d' = d.beside userDev kernel ∧ Matches sys sys' earlier earlier' d.kernel kernel

variable {sys sys' : Sys} {earlier earlier' : List Write} {k k' : Kernel}

def KeepsAlongside {α : Type} (sys sys' : Sys) (earlier earlier' : List Write) (x x' : DeviceM α) : Prop :=
  Alike.Steps (Alongside sys sys' earlier earlier') (Alongside sys sys' earlier earlier') x x'

theorem Alongside.attends {d d' : Device} (alongside : Alongside sys sys' earlier earlier' d d') :
    Attends sys sys' earlier earlier' d d' := by
  obtain ⟨userDev, kernel, rfl, matched⟩ := alongside
  exact ⟨rfl, matched⟩

/-! ### System calls -/

theorem Matches.after (matched : Matches sys sys' earlier earlier' k k') {l l' : Kernel} {later : List Write}
    (calls : l.calls = k.calls + 1) (calls' : l'.calls = k'.calls + 1) (writes : l.writes = k.writes ++ later)
    (writes' : l'.writes = k'.writes ++ later) : Matches sys sys' earlier earlier' l l' := by
  obtain ⟨openFd, ioctlOk, writeOk, before, wrote, wrote'⟩ := matched
  refine ⟨fun n => ?_, fun n => ?_, fun n => ?_, before ++ later, ?_, ?_⟩
  · rw [calls, calls', Nat.add_assoc, Nat.add_assoc, openFd]
  · rw [calls, calls', Nat.add_assoc, Nat.add_assoc, ioctlOk]
  · rw [calls, calls', Nat.add_assoc, Nat.add_assoc, writeOk]
  · rw [writes, wrote, List.append_assoc]
  · rw [writes', wrote', List.append_assoc]

/-- A call that writes no event. -/
theorem Matches.called (matched : Matches sys sys' earlier earlier' k k') {l l' : Kernel}
    (calls : l.calls = k.calls + 1) (calls' : l'.calls = k'.calls + 1) (writes : l.writes = k.writes)
    (writes' : l'.writes = k'.writes) : Matches sys sys' earlier earlier' l l' :=
  matched.after calls calls' (writes.trans (List.append_nil _).symm) (writes'.trans (List.append_nil _).symm)

theorem Matches.opens (matched : Matches sys sys' earlier earlier' k k') :
    sys'.openFd k'.calls = sys.openFd k.calls := matched.openFd 0

theorem Matches.controls (matched : Matches sys sys' earlier earlier' k k') :
    sys'.ioctlOk k'.calls = sys.ioctlOk k.calls := matched.ioctlOk 0

theorem Matches.hands (matched : Matches sys sys' earlier earlier' k k') :
    sys'.writeOk k'.calls = sys.writeOk k.calls := matched.writeOk 0

/-- A change of the members that does not look at the kernel. -/
theorem keeps_modify {f : Device → Device}
    (apart : ∀ d userDev kernel, f (d.beside userDev kernel) = (f d).beside userDev kernel := by intros; rfl)
    (kernel : ∀ d, (f d).kernel = d.kernel := by intros; rfl) :
    KeepsAlongside sys sys' earlier earlier' (modify f : DeviceM PUnit) (modify f) := by
  apply Alike.steps_modifies
  rintro d _ ⟨userDev, other, rfl, matched⟩
  refine ⟨userDev, other, apart d userDev other, ?_⟩
  rw [kernel]
  exact matched

theorem keeps_sysOpen : KeepsAlongside sys sys' earlier earlier' (sysOpen sys) (sysOpen sys') := by
  rintro d _ ⟨userDev, kernel, rfl, matched⟩
  exact ⟨matched.opens, userDev, _, rfl, matched.called rfl rfl rfl rfl⟩

theorem keeps_sysClose : KeepsAlongside sys sys' earlier earlier' sysClose sysClose := by
  rintro d _ ⟨userDev, kernel, rfl, matched⟩
  exact ⟨rfl, userDev, _, rfl, matched.called rfl rfl rfl rfl⟩

theorem keeps_setBit (cmd : SetBit) (bit : UInt16) :
    KeepsAlongside sys sys' earlier earlier' (setBit sys cmd bit) (setBit sys' cmd bit) := by
  rintro d _ ⟨userDev, kernel, rfl, matched⟩
  exact ⟨matched.controls, userDev, _, rfl, matched.called rfl rfl rfl rfl⟩

theorem keeps_devCreate : KeepsAlongside sys sys' earlier earlier' (devCreate sys) (devCreate sys') := by
  rintro d _ ⟨userDev, kernel, rfl, matched⟩
  exact ⟨matched.controls, userDev, _, rfl, matched.called rfl rfl rfl rfl⟩

theorem keeps_writeUserDev : KeepsAlongside sys sys' earlier earlier' (writeUserDev sys) (writeUserDev sys') := by
  rintro d _ ⟨userDev, kernel, rfl, matched⟩
  exact ⟨matched.hands, userDev, _, rfl, matched.called rfl rfl rfl rfl⟩

theorem keeps_inject (type code : UInt16) (value : Int32) :
    KeepsAlongside sys sys' earlier earlier' (inject sys type code value) (inject sys' type code value) := by
  rintro d _ ⟨userDev, kernel, rfl, matched⟩
  have answer : sys'.writeOk (d.beside userDev kernel).kernel.calls = sys.writeOk d.kernel.calls := matched.hands
  unfold inject
  rw [answer]
  exact ⟨rfl, userDev, _, rfl, matched.after rfl rfl rfl rfl⟩

/-! ### Reconfiguring -/

theorem keeps_setBits (bits : List (SetBit × UInt16)) :
    KeepsAlongside sys sys' earlier earlier' (setBits sys bits) (setBits sys' bits) := by
  induction bits with
  | nil => exact Alike.steps_returns _
  | cons entry rest ih =>
    apply Alike.steps_sequence (keeps_setBit entry.1 entry.2)
    intro ok
    exact Alike.steps_choice ih (Alike.steps_returns _)

theorem keeps_errIoctl : KeepsAlongside sys sys' earlier earlier' errIoctl errIoctl := by
  apply Alike.steps_sequence keeps_sysClose
  intro _
  apply Alike.steps_sequence keeps_modify
  intro _
  exact Alike.steps_returns _

theorem keeps_orErr {x x' : DeviceM Bool} {rest rest' : DeviceM Status}
    (first : KeepsAlongside sys sys' earlier earlier' x x') (then_ : KeepsAlongside sys sys' earlier earlier' rest rest') :
    KeepsAlongside sys sys' earlier earlier' (x >>= fun b => if !b then errIoctl else rest)
      (x' >>= fun b => if !b then errIoctl else rest') :=
  Alike.steps_sequence first fun _ => Alike.steps_choice keeps_errIoctl then_

theorem keeps_setUp (width height : UInt32) (istouch relative : Bool) :
    KeepsAlongside sys sys' earlier earlier' (setUp sys width height istouch relative)
      (setUp sys' width height istouch relative) := by
  have told : ∀ d d' : Device, Alongside sys sys' earlier earlier' d d' →
      Alongside sys sys' earlier earlier'
        { d with mUserDev := if relative then {} else { absmaxX := width.toInt32, absmaxY := height.toInt32 } }
        { d' with mUserDev := if relative then {} else { absmaxX := width.toInt32, absmaxY := height.toInt32 } } := by
    rintro d _ ⟨userDev, kernel, rfl, matched⟩
    exact ⟨_, kernel, rfl, matched⟩
  apply keeps_orErr (keeps_setBits _)
  apply keeps_orErr (keeps_setBits _)
  apply Alike.steps_sequence (Alike.steps_modifies told)
  intro _
  apply keeps_orErr keeps_writeUserDev
  apply keeps_orErr keeps_devCreate
  apply Alike.steps_sequence keeps_modify
  intro _
  exact Alike.steps_returns _

/-- After `stop` the guards are equal, too. -/
structure Stopped (sys sys' : Sys) (earlier earlier' : List Write) (d d' : Device) : Prop where
  attends : Attends sys sys' earlier earlier' d d'
  mOpened : d'.mOpened = d.mOpened

theorem stop_alongside : Alike.Steps (Attends sys sys' earlier earlier') (Stopped sys sys' earlier earlier')
    (stop sys) (stop sys') := by
  have guards : ∀ d d' : Device, Attends sys sys' earlier earlier' d d' →
      Stopped sys sys' earlier earlier' { d with mOpened := false } { d' with mOpened := false } :=
    fun _ _ attends => ⟨⟨attends.mFD, attends.kernel⟩, rfl⟩
  apply Alike.steps_sequence (Alike.steps_modifies guards)
  intro _
  apply Alike.steps_reads
  intro d d' stopped
  rw [stopped.attends.mFD]
  apply Alike.steps_choice (Alike.steps_returns _)
  intro d d' stopped
  have destroyed : Matches sys sys' earlier earlier' (devDestroy sys d).2.kernel (devDestroy sys' d').2.kernel :=
    stopped.attends.kernel.called rfl rfl rfl rfl
  exact ⟨rfl, ⟨rfl, destroyed.called rfl rfl rfl rfl⟩, stopped.mOpened⟩

/-- `start` resets everything else before it opens the device. -/
theorem start_alongside (width height : UInt32) (istouch relative : Bool) :
    Alike.Steps (Stopped sys sys' earlier earlier') (Alongside sys sys' earlier earlier')
      (start sys width height istouch relative) (start sys' width height istouch relative) := by
  have reset : ∀ d d' : Device, Stopped sys sys' earlier earlier' d d' →
      Alongside sys sys' earlier earlier' (d.reset istouch relative) (d'.reset istouch relative) := by
    rintro d d' ⟨⟨mFD, matched⟩, mOpened⟩
    refine ⟨d'.mUserDev, d'.kernel, ?_, matched⟩
    rw [Device.reset, Device.reset, Device.beside, mFD, mOpened]
  apply Alike.steps_sequence (Alike.steps_modifies reset)
  intro _
  apply Alike.steps_reads
  rintro d _ ⟨userDev, kernel, rfl, _⟩
  apply Alike.steps_choice (Alike.steps_returns _)
  apply Alike.steps_sequence keeps_sysOpen
  intro fd
  apply Alike.steps_sequence keeps_modify
  intro _
  exact Alike.steps_choice (Alike.steps_returns _) (keeps_setUp width height istouch relative)

theorem reconfigure_alongside (width height : UInt32) (istouch relative : Bool) :
    Alike.Steps (Attends sys sys' earlier earlier') (Alongside sys sys' earlier earlier')
      (reconfigure sys width height istouch relative) (reconfigure sys' width height istouch relative) := by
  apply Alike.steps_sequence stop_alongside
  intro _
  apply Alike.steps_sequence (start_alongside width height istouch relative)
  intro _
  exact Alike.steps_returns _

theorem keeps_reconfigure (width height : UInt32) (istouch relative : Bool) : KeepsAlongside sys sys' earlier earlier'
    (reconfigure sys width height istouch relative) (reconfigure sys' width height istouch relative) :=
  fun d d' alongside => reconfigure_alongside width height istouch relative d d' alongside.attends

/-! ### Events -/

theorem composes_keeps : Composes sys sys' fun _ x x' => KeepsAlongside sys sys' earlier earlier' x x' where
  returns := Alike.steps_returns
  sequence := Alike.steps_sequence
  injected := keeps_inject
  guarded := by
    intro x x' rest
    apply Alike.steps_reads
    rintro d _ ⟨userDev, kernel, rfl, _⟩
    exact Alike.steps_choice (Alike.steps_returns _) rest

theorem keeps_keyEvent (down : Bool) (keysym : UInt32) :
    KeepsAlongside sys sys' earlier earlier' (keyEvent sys down keysym) (keyEvent sys' down keysym) :=
  composes_keeps.keyEvent down keysym

theorem keeps_report : KeepsAlongside sys sys' earlier earlier' (report sys) (report sys') :=
  Alike.steps_sequence (keeps_inject _ _ _) fun _ => Alike.steps_returns _

theorem keeps_injectAbs (x y : Int32) : KeepsAlongside sys sys' earlier earlier' (injectAbs sys x y) (injectAbs sys' x y) := by
  apply Alike.steps_sequence (keeps_inject _ _ _)
  intro _
  exact Alike.steps_sequence (keeps_inject _ _ _) fun _ => Alike.steps_returns _

theorem keeps_movePart (x y diffX diffY : Int32) :
    KeepsAlongside sys sys' earlier earlier' (movePart sys x y diffX diffY) (movePart sys' x y diffX diffY) := by
  apply Alike.steps_reads
  rintro d _ ⟨userDev, kernel, rfl, _⟩
  refine Alike.steps_choice ?_ (Alike.steps_returns _)
  apply Alike.steps_reads
  rintro d _ ⟨userDev, kernel, rfl, _⟩
  apply Alike.steps_choice
  · exact Alike.steps_sequence (keeps_injectAbs x y) fun _ => keeps_report
  · apply Alike.steps_sequence (keeps_inject _ _ _)
    intro _
    exact Alike.steps_sequence (keeps_inject _ _ _) fun _ => keeps_report

theorem keeps_setClicked (b : Button) (v : Bool) : KeepsAlongside sys sys' earlier earlier'
    (modify fun d => d.setClicked b v : DeviceM PUnit) (modify fun d => d.setClicked b v) := by
  cases b <;> exact keeps_modify

theorem beside_clicked (d : Device) (userDev : UserDev) (kernel : Kernel) (b : Button) :
    (d.beside userDev kernel).clicked b = d.clicked b := by
  cases b <;> rfl

theorem keeps_buttonPart (b : Button) (position down : Bool) (x y : Int32) :
    KeepsAlongside sys sys' earlier earlier' (buttonPart sys b position down x y) (buttonPart sys' b position down x y) := by
  have key : ∀ value : UInt16 × Int32, KeepsAlongside sys sys' earlier earlier'
      (inject sys EV_KEY value.1 value.2 >>= fun _ => report sys)
      (inject sys' EV_KEY value.1 value.2 >>= fun _ => report sys') := fun value =>
    Alike.steps_sequence (keeps_inject _ _ _) fun _ => keeps_report
  have change : ∀ v (sent : Bool) (value : UInt16 × Int32), KeepsAlongside sys sys' earlier earlier'
      ((modify fun d => d.setClicked b v) >>= fun _ =>
        if sent then injectAbs sys x y >>= fun _ => inject sys EV_KEY value.1 value.2 >>= fun _ => report sys
        else inject sys EV_KEY value.1 value.2 >>= fun _ => report sys)
      ((modify fun d => d.setClicked b v) >>= fun _ =>
        if sent then injectAbs sys' x y >>= fun _ => inject sys' EV_KEY value.1 value.2 >>= fun _ => report sys'
        else inject sys' EV_KEY value.1 value.2 >>= fun _ => report sys') := by
    intro v sent value
    apply Alike.steps_sequence (keeps_setClicked b v)
    intro _
    exact Alike.steps_choice (Alike.steps_sequence (keeps_injectAbs x y) fun _ => key value) (key value)
  apply Alike.steps_reads
  rintro d _ ⟨userDev, kernel, rfl, _⟩
  rw [beside_clicked]
  apply Alike.steps_choice (change true (position && !d.useRelativeInput) (b.code d.touch, 1))
  apply Alike.steps_choice (change false (position && !d.useRelativeInput) (b.code d.touch, 0))
  refine Alike.steps_choice ?_ (Alike.steps_returns _)
  exact Alike.steps_sequence (keeps_injectAbs x y) fun _ => keeps_report

theorem keeps_wheelPart (turned : Bool) (value : Int32) :
    KeepsAlongside sys sys' earlier earlier' (wheelPart sys turned value) (wheelPart sys' turned value) :=
  Alike.steps_choice (Alike.steps_sequence (keeps_inject _ _ _) fun _ => keeps_report) (Alike.steps_returns _)

theorem keeps_pointerEvent (buttonMask x y : Int32) :
    KeepsAlongside sys sys' earlier earlier' (pointerEvent sys buttonMask x y) (pointerEvent sys' buttonMask x y) := by
  apply Alike.steps_reads
  rintro d _ ⟨userDev, kernel, rfl, _⟩
  apply Alike.steps_choice (Alike.steps_returns _)
  apply Alike.steps_reads
  rintro d _ ⟨userDev, kernel, rfl, _⟩
  apply Alike.steps_sequence keeps_modify
  intro _
  apply Alike.steps_sequence (keeps_movePart x y _ _)
  intro _
  apply Alike.steps_sequence (keeps_buttonPart .left true _ x y)
  intro _
  apply Alike.steps_sequence (keeps_buttonPart .right false _ x y)
  intro _
  apply Alike.steps_sequence (keeps_buttonPart .middle false _ x y)
  intro _
  exact Alike.steps_sequence (keeps_wheelPart _ _) fun _ => keeps_wheelPart _ _

end VncFlinger.Input
