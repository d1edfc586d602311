import VncFlinger.Input.Legality

/-!
# The mouse the client moves

What Android makes of the events of a mouse: where it points, which buttons are down and how far
the wheel was turned. In mouse mode that is the client's mouse after every call.
-/

namespace VncFlinger.Input
open Evdev

structure Mouse where
  x : Int32 := 0
  y : Int32 := 0
  left : Bool := false
  right : Bool := false
  middle : Bool := false
  wheel : Int := 0
  deriving DecidableEq, Repr

/-- The reader of a mouse. It counts the turns of the wheel, up less down. -/
def Mouse.read (m : Mouse) (e : InputEvent) : Mouse :=
  if e.type = EV_ABS then
    if e.code = ABS_X then { m with x := e.value }
    else if e.code = ABS_Y then { m with y := e.value }
    else m
  else if e.type = EV_REL then
    if e.code = REL_X then { m with x := m.x + e.value }
    else if e.code = REL_Y then { m with y := m.y + e.value }
    else if e.code = REL_WHEEL then { m with wheel := m.wheel + e.value.toInt }
    else m
  else if e.type = EV_KEY then
    if e.code = BTN_LEFT then { m with left := e.value != 0 }
    else if e.code = BTN_RIGHT then { m with right := e.value != 0 }
    else if e.code = BTN_MIDDLE then { m with middle := e.value != 0 }
    else m
  else m

def Mouse.follow (m : Mouse) (events : List InputEvent) : Mouse := events.foldl Mouse.read m

/-- How far a mask turns the wheel: up with bit 8, down with bit 16. -/
def turns (buttonMask : Int32) : Int :=
  (if buttonMask &&& 8 != 0 then 1 else 0) - (if buttonMask &&& 0x10 != 0 then 1 else 0)

/-- The client's mouse. -/
def Mouse.call (m : Mouse) : Call → Mouse
  | .pointer buttonMask x y =>
    { x := x, y := y, left := Button.left.down buttonMask, right := Button.right.down buttonMask
      middle := Button.middle.down buttonMask, wheel := m.wheel + turns buttonMask }
  | .key _ _ => m

def Mouse.pressed (m : Mouse) : Button → Bool
  | .left => m.left
  | .right => m.right
  | .middle => m.middle

def Mouse.setPressed (m : Mouse) (b : Button) (v : Bool) : Mouse :=
  match b with
  | .left => { m with left := v }
  | .right => { m with right := v }
  | .middle => { m with middle := v }

@[simp] theorem Mouse.follow_append (m : Mouse) (first second : List InputEvent) :
    m.follow (first ++ second) = (m.follow first).follow second := List.foldl_append

@[simp] theorem Mouse.follow_nil (m : Mouse) : m.follow [] = m := rfl

/-! ### The keyboard's keys -/

theorem follow_keyWrites (m : Mouse) {code : UInt16} (own : OfKeyboard code) (down : Bool) :
    m.follow (keyWrites code down) = m := by
  obtain ⟨left, right, middle⟩ := own.not_button
  have key : ∀ value, m.read ⟨EV_KEY, code, value⟩ = m := by
    intro value
    unfold Mouse.read
    rw [if_neg (by show ¬EV_KEY = EV_ABS; decide), if_neg (by show ¬EV_KEY = EV_REL; decide), if_pos rfl,
      if_neg left, if_neg right, if_neg middle]
  show ((m.read ⟨EV_SYN, SYN_REPORT, 0⟩).read ⟨EV_KEY, code, if down then 1 else 0⟩).read
    ⟨EV_SYN, SYN_REPORT, 0⟩ = m
  have report : ∀ m : Mouse, m.read ⟨EV_SYN, SYN_REPORT, 0⟩ = m := fun _ => rfl
  rw [report, report, key]

theorem follow_eventsOf (m : Mouse) {strokes : List (UInt16 × Bool)}
    (own : ∀ stroke ∈ strokes, OfKeyboard stroke.1) : m.follow (eventsOf strokes) = m := by
  induction strokes with
  | nil => rfl
  | cons stroke rest ih =>
    obtain ⟨here, later⟩ := List.forall_mem_cons.mp own
    rw [eventsOf, List.flatMap_cons, Mouse.follow_append, follow_keyWrites m here]
    exact ih later

/-! ### A pointer event -/

theorem follow_move (m : Mouse) (d : Device) (mouse : d.touch = false) (x y diffX diffY : Int32) :
    m.follow (moveWrites d x y diffX diffY) =
      if d.useRelativeInput then { m with x := m.x + diffX, y := m.y + diffY } else { m with x := x, y := y } := by
  unfold moveWrites
  rw [mouse]
  cases d.useRelativeInput <;> rfl

theorem follow_absWrites (m : Mouse) : m.follow (absWrites m.x m.y) = m := rfl

theorem setPressed_pressed (m : Mouse) (b : Button) : m.setPressed b (m.pressed b) = m := by
  cases b <;> rfl

theorem follow_click (m : Mouse) (b : Button) (down : Bool) :
    m.follow [⟨EV_KEY, b.code false, keyValue down⟩, sync] = m.setPressed b down := by
  cases b <;> cases down <;> rfl

/-- A button's part of a call at the mouse's position sets the button and nothing else. -/
theorem follow_button (m : Mouse) {d : Device} (mouse : d.touch = false) (b : Button) (position down : Bool)
    (same : m.pressed b = d.clicked b) :
    m.follow (buttonWrites d b position down m.x m.y) = m.setPressed b down := by
  unfold buttonWrites
  rw [mouse, ← same]
  split
  · rw [Mouse.follow_append]
    split
    · rw [follow_absWrites, follow_click]
    · rw [Mouse.follow_nil, follow_click]
  · rename_i unchanged
    have down' : down = m.pressed b := by simpa using unchanged
    rw [down', setPressed_pressed]
    split <;> rfl

theorem follow_wheel (m : Mouse) (buttonMask : Int32) :
    m.follow (wheelWrites buttonMask) = { m with wheel := m.wheel + turns buttonMask } := by
  have up : ∀ m : Mouse, m.follow [⟨EV_REL, REL_WHEEL, 1⟩, sync] = { m with wheel := m.wheel + 1 } :=
    fun _ => rfl
  have down : ∀ m : Mouse, m.follow [⟨EV_REL, REL_WHEEL, -1⟩, sync] = { m with wheel := m.wheel + -1 } :=
    fun _ => rfl
  unfold wheelWrites turns
  rw [Mouse.follow_append]
  split <;> split
  · rw [up, down]
    simp only [Mouse.mk.injEq, true_and]
    omega
  · rw [up]
    rfl
  · rw [Mouse.follow_nil, down]
    rfl
  · simp

/-- What a run keeps true of the device and the mouse that Android sees. -/
structure Mirrors (d : Device) (m : Mouse) : Prop where
  opened : d.mOpened = true
  mouse : d.touch = false
  position : d.useRelativeInput = true → m.x = d.mLastX ∧ m.y = d.mLastY
  pressed : ∀ b, m.pressed b = d.clicked b

theorem Mirrors.follow_pointer {d : Device} {m : Mouse} (mirrors : Mirrors d m) (buttonMask x y : Int32) :
    m.follow (pointerWrites d buttonMask x y) = m.call (.pointer buttonMask x y) := by
  have moved : m.follow (moveWrites d x y (x - d.mLastX) (y - d.mLastY)) = { m with x := x, y := y } := by
    rw [follow_move m d mirrors.mouse]
    split
    · rename_i relative
      obtain ⟨atX, atY⟩ := mirrors.position relative
      rw [atX, atY, Int32.add_comm, Int32.sub_add_cancel, Int32.add_comm, Int32.sub_add_cancel]
    · rfl
  let here : Mouse := { m with x := x, y := y }
  have left : here.follow (buttonWrites d .left true (Button.left.down buttonMask) x y) =
      here.setPressed .left (Button.left.down buttonMask) :=
    follow_button here mirrors.mouse .left true _ (mirrors.pressed .left)
  let clicked := here.setPressed .left (Button.left.down buttonMask)
  have right : clicked.follow (buttonWrites d .right false (Button.right.down buttonMask) x y) =
      clicked.setPressed .right (Button.right.down buttonMask) :=
    follow_button clicked mirrors.mouse .right false _ (mirrors.pressed .right)
  let both := clicked.setPressed .right (Button.right.down buttonMask)
  have middle : both.follow (buttonWrites d .middle false (Button.middle.down buttonMask) x y) =
      both.setPressed .middle (Button.middle.down buttonMask) :=
    follow_button both mirrors.mouse .middle false _ (mirrors.pressed .middle)
  unfold pointerWrites
  rw [Mouse.follow_append, Mouse.follow_append, Mouse.follow_append, Mouse.follow_append, moved, left, right,
    middle, follow_wheel]
  rfl

theorem Mirrors.step {sys : Sys} (succeed : sys.WritesSucceed) {d : Device} {m : Mouse} (mirrors : Mirrors d m)
    (call : Call) : Mirrors (callStep sys d call) (m.call call) ∧ ∃ events,
      (callStep sys d call).stream = d.stream ++ events ∧ m.follow events = m.call call := by
  obtain ⟨opened, mouse, position, pressed⟩ := mirrors
  cases call with
  | pointer buttonMask x y =>
    rw [callStep, pointerEvent_emit succeed buttonMask x y d opened]
    refine ⟨⟨opened, mouse, fun _ => ⟨rfl, rfl⟩, fun b => ?_⟩, _, stream_emit _ _,
      Mirrors.follow_pointer ⟨opened, mouse, position, pressed⟩ buttonMask x y⟩
    cases b <;> rfl
  | key down keysym =>
    rw [callStep, keyEvent_emit succeed down keysym d opened]
    refine ⟨⟨opened, mouse, position, pressed⟩, _, stream_emit _ _, ?_⟩
    exact follow_eventsOf m (strokes_ofKeyboard keysym down)

theorem Mirrors.run {sys : Sys} (succeed : sys.WritesSucceed) {d : Device} {m : Mouse} (mirrors : Mirrors d m)
    (run : List Call) : ∃ events, (run.foldl (callStep sys) d).stream = d.stream ++ events ∧
      m.follow events = run.foldl Mouse.call m := by
  induction run generalizing d m with
  | nil => exact ⟨[], (List.append_nil _).symm, rfl⟩
  | cons call rest ih =>
    obtain ⟨mirrors', events, stream, follows⟩ := mirrors.step succeed call
    obtain ⟨later, stream', follows'⟩ := ih mirrors'
    refine ⟨events ++ later, ?_, ?_⟩
    · rw [List.foldl_cons, stream', stream, List.append_assoc]
    · rw [Mouse.follow_append, follows, follows', List.foldl_cons]

/-- On a device started in mouse mode, absolute or relative, Android follows the client's mouse through
any calls: after each of them the events so far are read as its position, buttons and wheel. -/
theorem mouse_follows_client {sys : Sys} (succeed : sys.WritesSucceed) {width height : UInt32} {relative : Bool}
    {d₀ d : Device} (started : start sys width height false relative d₀ = (.ok, d)) (run : List Call) :
    Mouse.follow {} (written d (run.foldl (callStep sys) d)) = run.foldl Mouse.call {} := by
  have fresh := start_ok started
  have mirrors : Mirrors d {} := by
    refine ⟨fresh.opened, fresh.touch, fun _ => ⟨fresh.lastX.symm, fresh.lastY.symm⟩, fun b => ?_⟩
    cases b with
    | left => exact fresh.left.symm
    | right => exact fresh.right.symm
    | middle => exact fresh.middle.symm
  obtain ⟨events, stream, follows⟩ := mirrors.run succeed run
  rw [written, stream, List.drop_left, follows]

/-- Ctrl is held while the wheel turns twice and the right button is clicked elsewhere. -/
def scrolled : List Call :=
  [.key true 0xffe3, .pointer 8 100 200, .pointer 0 100 200, .pointer 8 100 200, .key false 0xffe3,
    .pointer 4 90 (-10)]

theorem mouse_follows_client_scrolled :
    Mouse.follow {} (written (freshDevice 1080 1920 false true)
        (scrolled.foldl (callStep .succeeding) (freshDevice 1080 1920 false true))) =
      scrolled.foldl Mouse.call {} :=
  mouse_follows_client (fun _ => rfl) (start_fresh 1080 1920 false true) scrolled

example : scrolled.foldl Mouse.call {} = ⟨90, -10, false, true, false, 2⟩ := by decide

end VncFlinger.Input
