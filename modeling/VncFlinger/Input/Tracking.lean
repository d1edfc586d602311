import VncFlinger.Library.Runs
import VncFlinger.Input.Buttons

/-!
# The position a reader sees

A reader of the event stream is at the position of the call whenever the left button changes or
is held. Mouse mode sends the position with every call, absolute touch mode with every call that
has the left button. Touch mode with relative input sends none.
-/

namespace VncFlinger.Input
open Evdev

structure Pointing where
  buttonMask : Int32
  x : Int32
  y : Int32
  deriving DecidableEq, Repr

def Pointing.position (c : Pointing) : Position := ⟨c.x.toInt, c.y.toInt⟩

def Pointing.Within (width height : UInt32) (c : Pointing) : Prop :=
  0 ≤ c.x.toInt ∧ c.x.toInt < width.toNat ∧ 0 ≤ c.y.toInt ∧ c.y.toInt < height.toNat

instance (width height : UInt32) (c : Pointing) : Decidable (c.Within width height) :=
  inferInstanceAs (Decidable (_ ∧ _ ∧ _ ∧ _))

/-- The left button is held during a call: it was before, or it is in the mask. -/
def LeftHeld (d : Device) (c : Pointing) : Prop :=
  d.mLeftClicked = true ∨ Button.left.down c.buttonMask = true

def LeftKey (e : InputEvent) : Prop := e.type = EV_KEY ∧ (e.code = BTN_LEFT ∨ e.code = BTN_TOUCH)

def point (sys : Sys) (d : Device) (c : Pointing) : Device :=
  (pointerEvent sys c.buttonMask c.x c.y d).2

def readStep (sys : Sys) (s : Device × Position) (c : Pointing) : Device × Position :=
  (point sys s.1 c, s.2.follow (written s.1 (point sys s.1 c)))

/-- The reader is at the call's position at each left button event of the call, and at its end if
the left button is held or the device is a mouse. -/
def ReaderFollows (sys : Sys) (s : Device × Position) (c : Pointing) : Prop :=
  Runs.Along Position.read (fun p e => LeftKey e → p = c.position) s.2 (written s.1 (point sys s.1 c)) ∧
    (LeftHeld s.1 c ∨ s.1.touch = false → (readStep sys s c).2 = c.position)

/-- Touch mode with relative input never leaves the origin. -/
def AtOrigin (s : Device × Position) (c : Pointing) : Prop :=
  s.1.touch = true → s.1.useRelativeInput = true → LeftHeld s.1 c → c.position = ⟨0, 0⟩

/-! ### Events that keep a position -/

def Keeps (p : Position) (events : List InputEvent) : Prop := ∀ e ∈ events, p.read e = p

@[simp] theorem keeps_nil (p : Position) : Keeps p [] := by simp [Keeps]

theorem keeps_append {p : Position} {first second : List InputEvent} :
    Keeps p (first ++ second) ↔ Keeps p first ∧ Keeps p second := List.forall_mem_append

theorem follow_keeps {p : Position} {events : List InputEvent} (keeps : Keeps p events) :
    p.follow events = p := by
  induction events with
  | nil => rfl
  | cons e rest ih =>
    rw [Position.follow_cons, keeps e List.mem_cons_self]
    exact ih fun e' member => keeps e' (List.mem_cons_of_mem e member)

theorem along_keeps {p : Position} {events : List InputEvent} {C : Position → InputEvent → Prop}
    (keeps : Keeps p events) : Runs.Along Position.read C p events ↔ ∀ e ∈ events, C p e := by
  induction events with
  | nil => simp
  | cons e rest ih =>
    rw [Runs.along_cons, keeps e List.mem_cons_self,
      ih fun e' member => keeps e' (List.mem_cons_of_mem e member), List.forall_mem_cons]

theorem keeps_sync (p : Position) : Keeps p [sync] := by
  intro e member
  rw [List.mem_singleton.mp member]
  rfl

theorem keeps_key (p : Position) (code : UInt16) (value : Int32) : Keeps p [⟨EV_KEY, code, value⟩, sync] := by
  intro e member
  rcases List.mem_cons.mp member with rfl | synced
  · rfl
  · exact keeps_sync p e synced

theorem keeps_abs (x y : Int32) : Keeps ⟨x.toInt, y.toInt⟩ (absWrites x y) := by
  intro e member
  rcases List.mem_cons.mp member with rfl | member
  · rfl
  · rw [List.mem_singleton.mp member]
    rfl

theorem keeps_wheel (p : Position) (buttonMask : Int32) : Keeps p (wheelWrites buttonMask) := by
  have turn : ∀ value, Keeps p [⟨EV_REL, REL_WHEEL, value⟩, sync] := by
    intro value e member
    rcases List.mem_cons.mp member with rfl | synced
    · rfl
    · exact keeps_sync p e synced
  unfold wheelWrites
  rw [keeps_append]
  constructor <;> split
  · exact turn 1
  · exact keeps_nil p
  · exact turn (-1)
  · exact keeps_nil p

theorem keeps_buttonWrites (d : Device) (b : Button) (position down : Bool) {x y : Int32} {p : Position}
    (at_call : d.useRelativeInput = false → p = ⟨x.toInt, y.toInt⟩) :
    Keeps p (buttonWrites d b position down x y) := by
  have abs : d.useRelativeInput = false → Keeps p (absWrites x y) := by
    intro absolute
    rw [at_call absolute]
    exact keeps_abs x y
  unfold buttonWrites
  split
  · rw [keeps_append]
    refine ⟨?_, keeps_key p _ _⟩
    split
    · rename_i sent
      simp only [Bool.and_eq_true, Bool.not_eq_true'] at sent
      exact abs sent.2
    · exact keeps_nil p
  · split
    · rename_i sent
      simp only [Bool.and_eq_true, Bool.not_eq_true'] at sent
      exact keeps_append.mpr ⟨abs sent.2, keeps_sync p⟩
    · exact keeps_nil p

/-! ### The parts of a call -/

def otherWrites (d : Device) (c : Pointing) : List InputEvent :=
  buttonWrites d .right false (Button.right.down c.buttonMask) c.x c.y ++
    buttonWrites d .middle false (Button.middle.down c.buttonMask) c.x c.y ++ wheelWrites c.buttonMask

def leftWrites (d : Device) (c : Pointing) : List InputEvent :=
  buttonWrites d .left true (Button.left.down c.buttonMask) c.x c.y

theorem pointerWrites_split (d : Device) (c : Pointing) :
    pointerWrites d c.buttonMask c.x c.y =
      moveWrites d c.x c.y (c.x - d.mLastX) (c.y - d.mLastY) ++ (leftWrites d c ++ otherWrites d c) := by
  simp only [pointerWrites, leftWrites, otherWrites, List.append_assoc]

theorem keeps_otherWrites (d : Device) (c : Pointing) {p : Position}
    (at_call : d.useRelativeInput = false → p = c.position) : Keeps p (otherWrites d c) := by
  unfold otherWrites
  rw [keeps_append, keeps_append]
  exact ⟨⟨keeps_buttonWrites d .right _ _ at_call, keeps_buttonWrites d .middle _ _ at_call⟩, keeps_wheel p _⟩

theorem not_leftKey_of_type {type code : UInt16} {value : Int32} (other : type ≠ EV_KEY) :
    ¬LeftKey ⟨type, code, value⟩ := fun own => other own.1

theorem not_leftKey_absWrites (x y : Int32) : ∀ e ∈ absWrites x y ++ [sync], ¬LeftKey e := by
  intro e member
  simp only [absWrites, List.cons_append, List.nil_append, List.mem_cons, List.not_mem_nil, or_false] at member
  rcases member with rfl | rfl | rfl
  · exact not_leftKey_of_type (by decide)
  · exact not_leftKey_of_type (by decide)
  · exact not_leftKey_of_type (by decide)

theorem not_leftKey_wheelWrites (buttonMask : Int32) : ∀ e ∈ wheelWrites buttonMask, ¬LeftKey e := by
  have turn : ∀ value, ∀ e ∈ [⟨EV_REL, REL_WHEEL, value⟩, sync], ¬LeftKey e := by
    intro value e member
    rcases List.mem_cons.mp member with rfl | member
    · exact not_leftKey_of_type (by decide)
    · rw [List.mem_singleton.mp member]
      exact not_leftKey_of_type (by decide)
  unfold wheelWrites
  rw [List.forall_mem_append]
  constructor <;> split
  · exact turn 1
  · simp
  · exact turn (-1)
  · simp

theorem code_ne_left {b : Button} (other : b ≠ .left) (touch : Bool) :
    b.code touch ≠ BTN_LEFT ∧ b.code touch ≠ BTN_TOUCH := by
  cases touch <;> cases b <;> first | exact absurd rfl other | decide

theorem not_leftKey_buttonWrites (d : Device) {b : Button} (other : b ≠ .left) (down : Bool) (x y : Int32) :
    ∀ e ∈ buttonWrites d b false down x y, ¬LeftKey e := by
  unfold buttonWrites
  split
  · intro e member
    rw [Bool.false_and, if_neg Bool.false_ne_true, List.nil_append] at member
    rcases List.mem_cons.mp member with rfl | member
    · rintro ⟨_, own⟩
      rcases own with left | touch
      · exact (code_ne_left other d.touch).1 left
      · exact (code_ne_left other d.touch).2 touch
    · rw [List.mem_singleton.mp member]
      exact not_leftKey_of_type (by decide)
  · split
    · exact not_leftKey_absWrites x y
    · simp

theorem not_leftKey_otherWrites (d : Device) (c : Pointing) : ∀ e ∈ otherWrites d c, ¬LeftKey e := by
  unfold otherWrites
  rw [List.forall_mem_append, List.forall_mem_append]
  exact ⟨⟨not_leftKey_buttonWrites d (by decide) _ _ _, not_leftKey_buttonWrites d (by decide) _ _ _⟩,
    not_leftKey_wheelWrites _⟩

theorem not_leftKey_moveWrites (d : Device) (x y diffX diffY : Int32) :
    ∀ e ∈ moveWrites d x y diffX diffY, ¬LeftKey e := by
  unfold moveWrites
  split
  · simp
  · split
    · intro e member
      simp only [List.mem_cons, List.not_mem_nil, or_false] at member
      rcases member with rfl | rfl | rfl
      · exact not_leftKey_of_type (by decide)
      · exact not_leftKey_of_type (by decide)
      · exact not_leftKey_of_type (by decide)
    · exact not_leftKey_absWrites x y

theorem leftWrites_nil {d : Device} {c : Pointing} (free : ¬LeftHeld d c) : leftWrites d c = [] := by
  obtain ⟨clicked, down⟩ := not_or.mp free
  simp [leftWrites, buttonWrites, Device.clicked, clicked, down]

theorem leftWrites_position {d : Device} {c : Pointing} (absolute : d.useRelativeInput = false)
    (held : LeftHeld d c) : ∃ rest, leftWrites d c = absWrites c.x c.y ++ rest := by
  unfold leftWrites buttonWrites
  split
  · exact ⟨_, by rw [absolute]; rfl⟩
  · rename_i same
    have down : Button.left.down c.buttonMask = true := by
      rcases held with clicked | down
      · simpa [Device.clicked, clicked] using same
      · exact down
    rw [if_pos (by rw [down, absolute]; rfl)]
    exact ⟨_, rfl⟩

theorem leftWrites_leftKey (d : Device) (c : Pointing) : ∀ e ∈ leftWrites d c, LeftKey e → LeftHeld d c := by
  intro e member _
  by_contra free
  rw [leftWrites_nil free] at member
  exact List.not_mem_nil member

/-! ### One call -/

theorem toInt_diff {x last : Int32} (x_nonneg : 0 ≤ x.toInt) (last_nonneg : 0 ≤ last.toInt) :
    last.toInt + (x - last).toInt = x.toInt := by
  have x_lt := x.toInt_lt
  have last_lt := last.toInt_lt
  rw [Int32.toInt_sub, Int.bmod_eq_of_le (by omega) (by omega)]
  omega

/-- In mouse mode the move brings the reader to the call, provided a relative reader was at the
last call. -/
theorem follow_moveWrites {d : Device} {c : Pointing} {p : Position} (mouse : d.touch = false)
    (last : 0 ≤ d.mLastX.toInt ∧ 0 ≤ d.mLastY.toInt) (call : 0 ≤ c.x.toInt ∧ 0 ≤ c.y.toInt)
    (sees : d.useRelativeInput = true → p = ⟨d.mLastX.toInt, d.mLastY.toInt⟩) :
    p.follow (moveWrites d c.x c.y (c.x - d.mLastX) (c.y - d.mLastY)) = c.position := by
  unfold moveWrites
  rw [if_neg (by rw [mouse]; exact Bool.false_ne_true)]
  split
  · rename_i relative
    rw [sees relative]
    have x := toInt_diff call.1 last.1
    have y := toInt_diff call.2 last.2
    show (⟨d.mLastX.toInt + (c.x - d.mLastX).toInt, d.mLastY.toInt + (c.y - d.mLastY).toInt⟩ : Position) = _
    rw [x, y]
    rfl
  · rfl

/-- What a run of calls keeps true of the device and its reader. -/
structure Tracked (istouch relative : Bool) (s : Device × Position) : Prop where
  opened : s.1.mOpened = true
  touch : s.1.touch = istouch
  useRelativeInput : s.1.useRelativeInput = relative
  last : 0 ≤ s.1.mLastX.toInt ∧ 0 ≤ s.1.mLastY.toInt
  mouse : istouch = false → relative = true → s.2 = ⟨s.1.mLastX.toInt, s.1.mLastY.toInt⟩
  origin : istouch = true → relative = true → s.2 = ⟨0, 0⟩

variable {sys : Sys} {istouch relative : Bool} {s : Device × Position} {c : Pointing}

theorem written_point (succeed : sys.WritesSucceed) (opened : s.1.mOpened = true) :
    written s.1 (point sys s.1 c) = moveWrites s.1 c.x c.y (c.x - s.1.mLastX) (c.y - s.1.mLastY) ++
      (leftWrites s.1 c ++ otherWrites s.1 c) := by
  rw [point, written_pointer succeed opened, pointerWrites_split]

theorem mouse_follows (succeed : sys.WritesSucceed) (tracked : Tracked istouch relative s)
    (call : 0 ≤ c.x.toInt ∧ 0 ≤ c.y.toInt) (mouse : istouch = false) : ReaderFollows sys s c := by
  have moved := follow_moveWrites (c := c) (tracked.touch.trans mouse) tracked.last call
    fun rel => tracked.mouse mouse (tracked.useRelativeInput.symm.trans rel)
  have left : Keeps c.position (leftWrites s.1 c) := keeps_buttonWrites s.1 .left _ _ fun _ => rfl
  have others : Keeps c.position (otherWrites s.1 c) := keeps_otherWrites s.1 c fun _ => rfl
  have rest := keeps_append.mpr ⟨left, others⟩
  unfold ReaderFollows readStep
  rw [written_point succeed tracked.opened, Runs.along_append]
  refine ⟨⟨?_, ?_⟩, fun _ => ?_⟩
  · exact Runs.along_of_forall_input fun e member p own => absurd own (not_leftKey_moveWrites _ _ _ _ _ e member)
  · rw [← Position.follow, moved, along_keeps rest]
    exact fun _ _ _ => rfl
  · rw [Position.follow_append, moved, follow_keeps rest]

theorem moveWrites_touch {d : Device} (touch : d.touch = true) (x y diffX diffY : Int32) :
    moveWrites d x y diffX diffY = [] := by
  rw [moveWrites, if_pos touch]

theorem touch_follows (succeed : sys.WritesSucceed) (tracked : Tracked istouch relative s)
    (touch : istouch = true) (absolute : relative = false) : ReaderFollows sys s c := by
  have touch' := tracked.touch.trans touch
  have absolute' := tracked.useRelativeInput.trans absolute
  have others : Keeps c.position (otherWrites s.1 c) := keeps_otherWrites s.1 c fun _ => rfl
  unfold ReaderFollows readStep
  rw [written_point succeed tracked.opened, moveWrites_touch touch', List.nil_append]
  by_cases held : LeftHeld s.1 c
  · obtain ⟨rest, split⟩ := leftWrites_position absolute' held
    have left : Keeps c.position (leftWrites s.1 c) := keeps_buttonWrites s.1 .left _ _ fun _ => rfl
    rw [split, keeps_append] at left
    have after := keeps_append.mpr ⟨left.2, others⟩
    have positioned : ∀ e ∈ absWrites c.x c.y, ¬LeftKey e := fun e member =>
      not_leftKey_absWrites c.x c.y e (List.mem_append_left _ member)
    rw [split, List.append_assoc, Runs.along_append]
    refine ⟨⟨?_, ?_⟩, fun _ => ?_⟩
    · exact Runs.along_of_forall_input fun e member p own => absurd own (positioned e member)
    · exact (along_keeps after).mpr fun _ _ _ => rfl
    · rw [Position.follow_append]
      exact follow_keeps after
  · rw [leftWrites_nil held, List.nil_append]
    refine ⟨?_, fun need => ?_⟩
    · exact Runs.along_of_forall_input fun e member p own =>
        absurd own (not_leftKey_otherWrites s.1 c e member)
    · rcases need with now | mouse
      · exact absurd now held
      · rw [touch'] at mouse
        exact absurd mouse Bool.true_eq_false_eq_False

theorem relative_touch_keeps (succeed : sys.WritesSucceed) (tracked : Tracked istouch relative s)
    (touch : istouch = true) (rel : relative = true) :
    Keeps s.2 (written s.1 (point sys s.1 c)) := by
  have rel' := tracked.useRelativeInput.trans rel
  have never : s.1.useRelativeInput = false → s.2 = c.position := fun absolute => by simp [rel'] at absolute
  rw [written_point succeed tracked.opened, moveWrites_touch (tracked.touch.trans touch), List.nil_append]
  exact keeps_append.mpr ⟨keeps_buttonWrites s.1 .left _ _ never, keeps_otherWrites s.1 c never⟩

theorem relative_touch_iff (succeed : sys.WritesSucceed) (tracked : Tracked istouch relative s)
    (touch : istouch = true) (rel : relative = true) :
    ReaderFollows sys s c ↔ (LeftHeld s.1 c → c.position = ⟨0, 0⟩) := by
  have keeps := relative_touch_keeps (c := c) succeed tracked touch rel
  have touch' := tracked.touch.trans touch
  unfold ReaderFollows readStep
  rw [along_keeps keeps, follow_keeps keeps, tracked.origin touch rel]
  constructor
  · rintro ⟨_, ends⟩ held
    exact (ends (Or.inl held)).symm
  · intro origin
    refine ⟨fun e member own => ?_, fun need => ?_⟩
    · rw [written_point succeed tracked.opened, moveWrites_touch touch', List.nil_append] at member
      rcases List.mem_append.mp member with left | other
      · exact (origin (leftWrites_leftKey s.1 c e left own)).symm
      · exact absurd own (not_leftKey_otherWrites s.1 c e other)
    · rcases need with held | mouse
      · exact (origin held).symm
      · rw [touch'] at mouse
        exact absurd mouse Bool.true_eq_false_eq_False

theorem readerFollows_iff (succeed : sys.WritesSucceed) (tracked : Tracked istouch relative s)
    (call : 0 ≤ c.x.toInt ∧ 0 ≤ c.y.toInt) : ReaderFollows sys s c ↔ AtOrigin s c := by
  unfold AtOrigin
  rw [tracked.touch, tracked.useRelativeInput]
  cases mode : istouch with
  | false => simpa using mouse_follows succeed tracked call mode
  | true =>
    cases input : relative with
    | false => simpa using touch_follows succeed tracked mode input
    | true => simpa using relative_touch_iff succeed tracked mode input

/-! ### Runs -/

theorem tracked_readStep (succeed : sys.WritesSucceed) (tracked : Tracked istouch relative s)
    (call : 0 ≤ c.x.toInt ∧ 0 ≤ c.y.toInt) : Tracked istouch relative (readStep sys s c) := by
  have after : point sys s.1 c = (s.1.pointed c.buttonMask c.x c.y).emit
      (pointerWrites s.1 c.buttonMask c.x c.y) := pointerEvent_emit succeed _ _ _ _ tracked.opened
  have members : (point sys s.1 c).mLastX = c.x ∧ (point sys s.1 c).mLastY = c.y := by
    rw [after]
    exact ⟨rfl, rfl⟩
  refine ⟨?_, ?_, ?_, ?_, ?_, ?_⟩
  · rw [readStep, after]
    exact tracked.opened
  · rw [readStep, after]
    exact tracked.touch
  · rw [readStep, after]
    exact tracked.useRelativeInput
  · rw [readStep, members.1, members.2]
    exact call
  · intro mouse _
    have ends := (mouse_follows succeed tracked call mouse).2 (Or.inr (tracked.touch.trans mouse))
    rw [ends, readStep, members.1, members.2]
    rfl
  · intro touch rel
    rw [readStep, follow_keeps (relative_touch_keeps succeed tracked touch rel)]
    exact tracked.origin touch rel

theorem tracked_start {width height : UInt32} {d₀ d : Device}
    (started : start sys width height istouch relative d₀ = (.ok, d)) :
    Tracked istouch relative (d, ⟨0, 0⟩) := by
  have fresh := start_ok started
  refine ⟨fresh.opened, fresh.touch, fresh.useRelativeInput, ?_, ?_, fun _ _ => rfl⟩
  · rw [fresh.lastX, fresh.lastY]
    decide
  · rw [fresh.lastX, fresh.lastY]
    exact fun _ _ => rfl

/-- From a successful start, the reader follows every call of a run exactly when each call that
holds the left button of a relative touch device is at the origin. -/
theorem reader_follows_along_run (succeed : sys.WritesSucceed) {width height : UInt32} {d₀ d : Device}
    (started : start sys width height istouch relative d₀ = (.ok, d)) (run : List Pointing)
    (within : ∀ c ∈ run, c.Within width height) :
    Runs.Along (readStep sys) (ReaderFollows sys) (d, ⟨0, 0⟩) run ↔
      Runs.Along (readStep sys) AtOrigin (d, ⟨0, 0⟩) run := by
  have call : ∀ c ∈ run, 0 ≤ c.x.toInt ∧ 0 ≤ c.y.toInt := fun c member =>
    ⟨(within c member).1, (within c member).2.2.1⟩
  refine Runs.along_iff (I := Tracked istouch relative) (tracked_start started) ?_ ?_
  · intro s c member tracked
    exact readerFollows_iff succeed tracked (call c member)
  · intro s c member tracked _
    exact tracked_readStep succeed tracked (call c member)

def drag : List Pointing := [⟨0, 100, 200⟩, ⟨1, 90, 250⟩, ⟨1, 95, 240⟩, ⟨0, 1000, 5⟩]

theorem reader_follows_drag :
    Runs.Along (readStep .succeeding) (ReaderFollows .succeeding) (freshDevice 1080 1920 false true, ⟨0, 0⟩) drag ↔
      Runs.Along (readStep .succeeding) AtOrigin (freshDevice 1080 1920 false true, ⟨0, 0⟩) drag :=
  reader_follows_along_run (fun _ => rfl) (start_fresh 1080 1920 false true) drag (by decide)

theorem touch_relative_untracked :
    start .succeeding 1080 1920 true true .closed = (.ok, freshDevice 1080 1920 true true) ∧
    Pointing.Within 1080 1920 ⟨1, 100, 200⟩ ∧
    ¬Runs.Along (readStep .succeeding) (ReaderFollows .succeeding) (freshDevice 1080 1920 true true, ⟨0, 0⟩)
      [⟨1, 100, 200⟩] := by
  have started := start_fresh 1080 1920 true true
  refine ⟨started, by decide, ?_⟩
  rintro ⟨follows, _⟩
  have tracked := tracked_start started
  have origin := (readerFollows_iff (fun _ => rfl) tracked (by decide)).mp follows
  have same := origin tracked.touch tracked.useRelativeInput (Or.inr (by decide))
  exact absurd same (by decide)

end VncFlinger.Input
