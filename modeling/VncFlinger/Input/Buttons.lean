import VncFlinger.Library.Runs
import VncFlinger.Library.Toggle
import VncFlinger.Input.Pointer

/-!
# Button logs

In a run of pointer events, with key events between them, the values written for a button are
what a writer produces that follows the button's bit in the masks.
-/

namespace VncFlinger.Input
open Evdev

/-- A call on the open device. -/
inductive Call where
  | pointer (buttonMask x y : Int32)
  | key (down : Bool) (keysym : UInt32)
  deriving DecidableEq, Repr

def callStep (sys : Sys) (d : Device) : Call → Device
  | .pointer buttonMask x y => (pointerEvent sys buttonMask x y d).2
  | .key down keysym => (keyEvent sys down keysym d).2

def written (before after : Device) : List InputEvent := after.stream.drop before.stream.length

/-- The values of the `EV_KEY` events of one code. -/
def keyValues (code : UInt16) (events : List InputEvent) : List Int32 :=
  events.filterMap fun e => if e.type = EV_KEY ∧ e.code = code then some e.value else none

def buttonLog (sys : Sys) (b : Button) : Device → List Call → List Int32
  | _, [] => []
  | d, call :: rest =>
    (match call with
      | .pointer _ _ _ => keyValues (b.code d.touch) (written d (callStep sys d call))
      | .key _ _ => []) ++ buttonLog sys b (callStep sys d call) rest

/-! ### One call -/

theorem keyValues_append (code : UInt16) (first second : List InputEvent) :
    keyValues code (first ++ second) = keyValues code first ++ keyValues code second :=
  List.filterMap_append

theorem code_injective (touch : Bool) {b b' : Button} (same : b.code touch = b'.code touch) : b = b' := by
  cases touch <;> cases b <;> cases b' <;> first | rfl | (revert same; decide)

theorem keyValues_moveWrites (code : UInt16) (d : Device) (x y diffX diffY : Int32) :
    keyValues code (moveWrites d x y diffX diffY) = [] := by
  unfold moveWrites
  split
  · rfl
  · split <;> rfl

theorem keyValues_wheelWrites (code : UInt16) (buttonMask : Int32) :
    keyValues code (wheelWrites buttonMask) = [] := by
  unfold wheelWrites
  split <;> split <;> rfl

theorem keyValues_buttonWrites (d : Device) (b : Button) (position down : Bool) (x y : Int32) :
    keyValues (b.code d.touch) (buttonWrites d b position down x y) =
      Toggle.follow (keyValue (d.clicked b)) (keyValue down) := by
  have own : ∀ v, keyValues (b.code d.touch) [⟨EV_KEY, b.code d.touch, v⟩, sync] = [v] := by
    intro v
    have syn : ¬EV_SYN = EV_KEY := by decide
    simp [keyValues, sync, syn]
  have abs : keyValues (b.code d.touch) (absWrites x y) = [] := rfl
  have absSync : keyValues (b.code d.touch) (absWrites x y ++ [sync]) = [] := rfl
  unfold buttonWrites Toggle.follow
  cases down <;> cases d.clicked b <;> cases position <;> cases d.useRelativeInput <;>
    simp [keyValues_append, own, abs, absSync, keyValue] <;> rfl

theorem keyValues_otherButton (d : Device) {b b' : Button} (other : b' ≠ b) (position down : Bool)
    (x y : Int32) : keyValues (b.code d.touch) (buttonWrites d b' position down x y) = [] := by
  have different : b'.code d.touch ≠ b.code d.touch := fun same => other (code_injective d.touch same)
  have key : ∀ v, keyValues (b.code d.touch) [⟨EV_KEY, b'.code d.touch, v⟩, sync] = [] := by
    intro v
    have syn : ¬EV_SYN = EV_KEY := by decide
    simp [keyValues, sync, different, syn]
  have abs : keyValues (b.code d.touch) (absWrites x y) = [] := rfl
  have absSync : keyValues (b.code d.touch) (absWrites x y ++ [sync]) = [] := rfl
  unfold buttonWrites
  cases down <;> cases d.clicked b' <;> cases position <;> cases d.useRelativeInput <;>
    simp [keyValues_append, key, abs, absSync] <;> rfl

theorem keyValues_pointerWrites (d : Device) (b : Button) (buttonMask x y : Int32) :
    keyValues (b.code d.touch) (pointerWrites d buttonMask x y) =
      Toggle.follow (keyValue (d.clicked b)) (keyValue (b.down buttonMask)) := by
  unfold pointerWrites
  rw [keyValues_append, keyValues_append, keyValues_append, keyValues_append, keyValues_moveWrites,
    keyValues_wheelWrites, List.nil_append, List.append_nil]
  cases b with
  | left =>
    rw [keyValues_buttonWrites, keyValues_otherButton d (by decide), keyValues_otherButton d (by decide),
      List.append_nil, List.append_nil]
  | right =>
    rw [keyValues_buttonWrites, keyValues_otherButton d (by decide), keyValues_otherButton d (by decide),
      List.append_nil, List.nil_append]
  | middle =>
    rw [keyValues_buttonWrites, keyValues_otherButton d (by decide), keyValues_otherButton d (by decide),
      List.nil_append, List.nil_append]

variable {sys : Sys} {d : Device}

theorem written_emit (d d' : Device) (events : List InputEvent) (same : d'.stream = d.stream) :
    written d (d'.emit events) = events := by
  rw [written, stream_emit, same, List.drop_left]

theorem written_pointer (succeed : sys.WritesSucceed) (opened : d.mOpened = true) (buttonMask x y : Int32) :
    written d (pointerEvent sys buttonMask x y d).2 = pointerWrites d buttonMask x y := by
  rw [pointerEvent_emit succeed buttonMask x y d opened]
  exact written_emit d _ _ rfl

theorem clicked_pointer (succeed : sys.WritesSucceed) (opened : d.mOpened = true) (b : Button)
    (buttonMask x y : Int32) : (pointerEvent sys buttonMask x y d).2.clicked b = b.down buttonMask := by
  rw [pointerEvent_emit succeed buttonMask x y d opened]
  cases b <;> rfl

/-! ### Runs -/

theorem callStep_opened (succeed : sys.WritesSucceed) (opened : d.mOpened = true) (call : Call) :
    (callStep sys d call).mOpened = true := by
  cases call with
  | pointer buttonMask x y =>
    rw [callStep, pointerEvent_emit succeed buttonMask x y d opened]
    exact opened
  | key down keysym =>
    rw [callStep, keyEvent_emit succeed down keysym d opened]
    exact opened

/-- The log of a run goes on from any log that alternates and ends at the button's flag. -/
theorem buttonLog_follows (succeed : sys.WritesSucceed) (opened : d.mOpened = true) (b : Button)
    (run : List Call) (log : List Int32) (alternates : Toggle.Alternates (1 - ·) 0 log)
    (ends : log.getLastD 0 = keyValue (d.clicked b)) :
    Toggle.Alternates (1 - ·) 0 (log ++ buttonLog sys b d run) ∧
      (log ++ buttonLog sys b d run).getLastD 0 = keyValue ((run.foldl (callStep sys) d).clicked b) := by
  induction run generalizing d log with
  | nil =>
    rw [buttonLog, List.append_nil]
    exact ⟨alternates, ends⟩
  | cons call rest ih =>
    have opened' := callStep_opened succeed opened call
    cases call with
    | pointer buttonMask x y =>
      have here := written_pointer succeed opened buttonMask x y
      have either : keyValue (b.down buttonMask) = keyValue (d.clicked b) ∨
          keyValue (b.down buttonMask) = 1 - keyValue (d.clicked b) := by
        cases b.down buttonMask <;> cases d.clicked b <;> decide
      have step := Toggle.alternates_follow alternates ends either
      have flag := clicked_pointer succeed opened b buttonMask x y
      rw [buttonLog, List.foldl_cons]
      simp only [callStep] at opened' ⊢
      rw [here, keyValues_pointerWrites, ← List.append_assoc]
      exact ih opened' _ step.1 (by rw [step.2, flag])
    | key down keysym =>
      have flag : (callStep sys d (.key down keysym)).clicked b = d.clicked b := by
        rw [callStep, keyEvent_emit succeed down keysym d opened]
        rfl
      rw [buttonLog, List.foldl_cons, List.nil_append]
      exact ih opened' _ alternates (by rw [ends, flag])

theorem keyValue_eq_one {v : Bool} : keyValue v = 1 ↔ v = true := by
  cases v <;> decide

/-- In every run between a successful start and the next stop, the values written for a button
alternate beginning with a press, the last one is 1 exactly when the button's flag is set, and
after a pointer event that is exactly when its mask has the button's bit. -/
theorem button_log_alternates (succeed : sys.WritesSucceed) {width height : UInt32}
    {istouch relative : Bool} {d₀ : Device}
    (started : start sys width height istouch relative d₀ = (.ok, d)) (b : Button) (run : List Call) :
    Toggle.Alternates (1 - ·) 0 (buttonLog sys b d run) ∧
    ((buttonLog sys b d run).getLastD 0 = 1 ↔ (run.foldl (callStep sys) d).clicked b = true) ∧
    ∀ before buttonMask x y, run = before ++ [.pointer buttonMask x y] →
      ((run.foldl (callStep sys) d).clicked b = true ↔ buttonMask &&& b.bit ≠ 0) := by
  have fresh := start_ok started
  have released : d.clicked b = false := by
    cases b with
    | left => exact fresh.left
    | right => exact fresh.right
    | middle => exact fresh.middle
  obtain ⟨alternates, ends⟩ := buttonLog_follows succeed fresh.opened b run [] trivial
    (by rw [released]; rfl)
  rw [List.nil_append] at alternates ends
  refine ⟨alternates, ?_, ?_⟩
  · rw [ends, keyValue_eq_one]
  · rintro before buttonMask x y rfl
    have opened : (before.foldl (callStep sys) d).mOpened = true :=
      Runs.foldl_invariant (I := fun (d : Device) => d.mOpened = true) fresh.opened fun _ call _ opened =>
        callStep_opened succeed opened call
    rw [List.foldl_append, List.foldl_cons, List.foldl_nil, callStep,
      clicked_pointer succeed opened b buttonMask x y, Button.down, bne_iff_ne]

/-- The right and the middle button go down together and up together, with a key event between. -/
def rightAndMiddle : List Call := [.pointer 6 10 20, .key true XK_a, .pointer 0 10 20]

theorem button_log_together :
    Toggle.Alternates (1 - ·) 0
      (buttonLog .succeeding .right (freshDevice 1080 1920 true false) rightAndMiddle) ∧
    ((buttonLog .succeeding .right (freshDevice 1080 1920 true false) rightAndMiddle).getLastD 0 = 1 ↔
      (rightAndMiddle.foldl (callStep .succeeding)
        (freshDevice 1080 1920 true false)).clicked .right = true) ∧
    ∀ before buttonMask x y, rightAndMiddle = before ++ [.pointer buttonMask x y] →
      ((rightAndMiddle.foldl (callStep .succeeding)
        (freshDevice 1080 1920 true false)).clicked .right = true ↔ buttonMask &&& Button.right.bit ≠ 0) :=
  button_log_alternates (fun _ => rfl) (start_fresh 1080 1920 true false) .right rightAndMiddle

end VncFlinger.Input
