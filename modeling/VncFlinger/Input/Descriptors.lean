import VncFlinger.Input.Opening

/-!
# The descriptors of the devices

Each start of the desktop makes a new `InputDevice`, whose destructor stops it. Whatever fails, the
process holds one descriptor of `/dev/uinput` while `mFD` names one, and none otherwise.
-/

namespace VncFlinger.Input

/-- The process has the descriptor in `mFD` and no other, and no device but its own. -/
structure Accounted (d : Device) : Prop where
  opened : d.kernel.opened = if 0 ≤ d.mFD then [d.mFD] else []
  created : d.kernel.created = [] ∨ 0 ≤ d.mFD ∧ d.kernel.created = [d.mFD]

/-- The descriptor is open, and its device is not created yet. -/
structure Pending (d : Device) : Prop where
  mFD : 0 ≤ d.mFD
  opened : d.kernel.opened = [d.mFD]
  created : d.kernel.created = []

/-- A new object: `mFD` is set, the other members hold what `members` does. -/
def Device.renewed (members : Device) (kernel : Kernel) : Device := { members with mFD := -1, kernel := kernel }

/-- What an object leaves in the kernel, from its constructor to its destructor. -/
def lifetime (sys : Sys) (kernel : Kernel) (life : Device × List Operation) : Kernel :=
  (stop sys (life.2.foldl (operate sys) (life.1.renewed kernel))).2.kernel

variable {sys : Sys} {d d' : Device}

theorem Accounted.closed (accounted : Accounted d) (closed : d.mFD < 0) :
    d.kernel.opened = [] ∧ d.kernel.created = [] := by
  have opened := accounted.opened
  rw [if_neg (Int.not_le.mpr closed)] at opened
  refine ⟨opened, accounted.created.resolve_right ?_⟩
  rintro ⟨device, _⟩
  omega

theorem Pending.accounted (pending : Pending d) : Accounted d :=
  ⟨by rw [if_pos pending.mFD]; exact pending.opened, Or.inl pending.created⟩

theorem Accounted.of_same (accounted : Accounted d) (mFD : d'.mFD = d.mFD)
    (opened : d'.kernel.opened = d.kernel.opened) (created : d'.kernel.created = d.kernel.created) :
    Accounted d' := by
  obtain ⟨here, device⟩ := accounted
  exact ⟨by rw [opened, mFD]; exact here, by rw [created, mFD]; exact device⟩

theorem Accounted.injected (accounted : Accounted d) (injected : Injected d d') : Accounted d' :=
  accounted.of_same injected.mFD injected.opened injected.created

/-! ### Starting -/

theorem Pending.errIoctl (pending : Pending d) : Accounted (errIoctl d).2 := by
  obtain ⟨mFD, opened, created⟩ := pending
  refine ⟨?_, Or.inl ?_⟩
  · show d.kernel.opened.erase d.mFD = _
    rw [opened, List.erase_cons_head]
    rfl
  · show d.kernel.created.erase d.mFD = []
    rw [created]
    rfl

theorem Pending.orErr {x : DeviceM Bool} {rest : DeviceM Status} (left : Pending (x d).2)
    (succeeded : (x d).1 = true → Accounted (rest (x d).2).2) :
    Accounted ((x >>= fun b => if !b then Input.errIoctl else rest) d).2 := by
  cases result : (x d).1 with
  | true =>
    rw [orErr_apply result]
    exact succeeded result
  | false =>
    rw [bind_apply, result]
    exact left.errIoctl

theorem Pending.kept (pending : Pending d) {kernel : Kernel} (kept : d.kernel.Kept kernel) :
    Pending { d with kernel := kernel } :=
  ⟨pending.mFD, kept.opened.trans pending.opened, kept.created.trans pending.created⟩

theorem Pending.setUp (pending : Pending d) (width height : UInt32) (istouch relative : Bool) :
    Accounted (setUp sys width height istouch relative d).2 := by
  obtain ⟨options, optionsEq, optionsKept⟩ :=
    setBits_frame sys (if istouch then kOptions else mOptions) d
  obtain ⟨keys, keysEq, keysKept⟩ := setBits_frame sys (keyBits istouch) { d with kernel := options }
  have first := pending.kept optionsKept
  have second : Pending { d with kernel := keys } := first.kept keysKept
  unfold Input.setUp
  refine Pending.orErr (by rw [optionsEq]; exact first) fun _ => ?_
  rw [optionsEq]
  refine Pending.orErr (by rw [keysEq]; exact second) fun _ => ?_
  rw [keysEq, bind_apply, modify_apply]
  refine Pending.orErr ⟨second.mFD, second.opened, second.created⟩ fun _ => ?_
  -- a failing creation leaves no device, a successful one the device of the descriptor
  cases created : sys.ioctlOk (tick keys).calls with
  | false =>
    refine Pending.orErr ⟨second.mFD, second.opened, ?_⟩ fun succeeded => ?_
    · show (if sys.ioctlOk (tick keys).calls then _ else keys.created) = []
      rw [created]
      exact second.created
    · exact absurd (created.symm.trans succeeded) Bool.false_ne_true
  | true =>
    rw [orErr_apply (by exact created)]
    refine ⟨?_, Or.inr ⟨second.mFD, ?_⟩⟩
    · show keys.opened = if 0 ≤ d.mFD then [d.mFD] else []
      rw [if_pos second.mFD]
      exact second.opened
    · show (if sys.ioctlOk (tick keys).calls then d.mFD :: keys.created else keys.created) = [d.mFD]
      have none : keys.created = [] := second.created
      rw [created, none]
      rfl

theorem Accounted.start (accounted : Accounted d) (width height : UInt32) (istouch relative : Bool) :
    Accounted (start sys width height istouch relative d).2 := by
  rw [start_apply]
  split_ifs with already failed
  · exact accounted.of_same rfl rfl rfl
  · obtain ⟨opened, created⟩ := accounted.closed (Int.not_le.mp already)
    have none : ¬0 ≤ sys.openFd d.kernel.calls := Int.not_le.mpr failed
    refine ⟨?_, Or.inl created⟩
    show (if 0 ≤ sys.openFd d.kernel.calls then _ else d.kernel.opened) =
      if 0 ≤ sys.openFd d.kernel.calls then _ else []
    rw [if_neg none, if_neg none, opened]
  · obtain ⟨opened, created⟩ := accounted.closed (Int.not_le.mp already)
    have here : 0 ≤ sys.openFd d.kernel.calls := Int.not_lt.mp failed
    have pending : Pending ((d.reset istouch relative).opening sys) := by
      refine ⟨here, ?_, created⟩
      show (if 0 ≤ sys.openFd d.kernel.calls then sys.openFd d.kernel.calls :: d.kernel.opened else _) = _
      rw [if_pos here, opened]
      rfl
    exact pending.setUp width height istouch relative

/-! ### Stopping -/

theorem Accounted.stop (accounted : Accounted d) : Accounted (stop sys d).2 := by
  unfold Input.stop
  rw [bind_apply, modify_apply, bind_apply, get_apply, ite_apply]
  split_ifs with closed
  · exact accounted.of_same rfl rfl rfl
  · have device : 0 ≤ d.mFD := Int.not_lt.mp closed
    obtain ⟨opened, created⟩ := accounted
    rw [if_pos device] at opened
    refine ⟨?_, Or.inl ?_⟩
    · show d.kernel.opened.erase d.mFD = []
      rw [opened, List.erase_cons_head]
    · show (if sys.ioctlOk d.kernel.calls then d.kernel.created.erase d.mFD else d.kernel.created).erase d.mFD = []
      rcases created with none | ⟨_, one⟩
      · rw [none]
        split <;> rfl
      · rw [one, List.erase_cons_head]
        split <;> simp

theorem Accounted.operate (accounted : Accounted d) (op : Operation) : Accounted (operate sys d op) := by
  cases op with
  | start width height istouch relative => exact accounted.start width height istouch relative
  | startAsync width height istouch relative => exact accounted.start width height istouch relative
  | reconfigure width height istouch relative => exact accounted.stop.start width height istouch relative
  | stop => exact accounted.stop
  | keyEvent down keysym => exact accounted.injected ((composes_injects sys).keyEvent down keysym d)
  | pointerEvent buttonMask x y => exact accounted.injected (injects_pointerEvent sys buttonMask x y d)

theorem Accounted.run (accounted : Accounted d) (run : List Operation) :
    Accounted (run.foldl (Input.operate sys) d) :=
  Runs.foldl_invariant accounted fun _ op _ before => before.operate op

theorem accounted_renewed (members : Device) {kernel : Kernel} (opened : kernel.opened = [])
    (created : kernel.created = []) : Accounted (members.renewed kernel) :=
  ⟨opened, Or.inl created⟩

theorem lifetime_leaves {kernel : Kernel} (opened : kernel.opened = []) (created : kernel.created = [])
    (life : Device × List Operation) :
    (lifetime sys kernel life).opened = [] ∧ (lifetime sys kernel life).created = [] := by
  have ran : Accounted (life.2.foldl (operate sys) (life.1.renewed kernel)) :=
    (accounted_renewed life.1 opened created).run life.2
  have left : Accounted (stop sys (life.2.foldl (operate sys) (life.1.renewed kernel))).2 := ran.stop
  exact left.closed (stop_closed sys _)

/-- Through any number of devices, one after the other, each started, reconfigured, used and stopped in
any order and with any failures: the descriptors are accounted for at every moment of the last one, and
the destructors have left none. -/
theorem descriptors_accounted (sys : Sys) (lives : List (Device × List Operation)) :
    (lives.foldl (lifetime sys) {}).opened = [] ∧ (lives.foldl (lifetime sys) {}).created = [] ∧
      ∀ (members : Device) (run : List Operation),
        Accounted (run.foldl (operate sys) (members.renewed (lives.foldl (lifetime sys) {}))) := by
  have none : (lives.foldl (lifetime sys) {}).opened = [] ∧ (lives.foldl (lifetime sys) {}).created = [] :=
    Runs.foldl_invariant (I := fun kernel : Kernel => kernel.opened = [] ∧ kernel.created = []) ⟨rfl, rfl⟩
      fun _ life _ before => lifetime_leaves before.1 before.2 life
  exact ⟨none.1, none.2, fun members run => (accounted_renewed members none.1 none.2).run run⟩

end VncFlinger.Input
