import VncFlinger.Input.Device
import VncFlinger.Input.Tables

/-!
# Key events

`keyEvent` as the source has it, and the list of events it writes while every write succeeds.
The keysym alone decides that list: `keyPath` names the table that answers for it.
-/

namespace VncFlinger.Input
open Evdev

/-! ### The source -/

def doKeyboardEvent (sys : Sys) (code : UInt16) (down : Bool) : DeviceM Status := do
  let _ ← inject sys EV_SYN SYN_REPORT 0
  if down then
    if (← press sys code) != .ok then pure .errno
    else
      let _ ← inject sys EV_SYN SYN_REPORT 0
      pure .ok
  else
    if (← release sys code) != .ok then pure .errno
    else
      let _ ← inject sys EV_SYN SYN_REPORT 0
      pure .ok

/-- Whether a character needs Shift, and its scan code: 0 for one that is not a letter or digit. -/
def basicKey (code : UInt16) : Bool × UInt16 :=
  if 0x61 ≤ code ∧ code ≤ 0x7a then (false, qwerty.getD (code - 0x61).toNat 0)
  else if 0x41 ≤ code ∧ code ≤ 0x5a then (true, qwerty.getD (code - 0x41).toNat 0)
  else if 0x31 ≤ code ∧ code ≤ 0x39 then (false, code - 0x31 + 2)
  else if code = 0x30 then (false, KEY_0)
  else (false, 0)

def doBasicKeyEvent (sys : Sys) (code : UInt16) (down : Bool) : DeviceM Status := do
  let (needShift, scanCode) := basicKey code
  if scanCode = 0 then pure .badValue
  else
    if needShift then
      let _ ← doKeyboardEvent sys KEY_LEFTSHIFT down
    doKeyboardEvent sys scanCode down

def fixUnknown (keysym : UInt32) : UInt32 :=
  match keysymToAscii.find? (·.keysym == keysym) with
  | some entry => entry.ascii
  | none => keysym

/-- The two nested loops over `latin1ToDeadChars` and `deadCharsToAltChar`. -/
def latinKey (keysym : UInt32) : Option (Latin1ToDeadChars × DeadCharsToAltChar) :=
  latin1ToDeadChars.findSome? fun latin =>
    if keysym == latin.latin1Char then
      (deadCharsToAltChar.find? (latin.deadChar == ·.deadChar)).map fun dead => (latin, dead)
    else none

def keyEvent (sys : Sys) (down : Bool) (keysym : UInt32) : DeviceM Unit := do
  if !(← get).mOpened then pure ()
  else
    let keysym := fixUnknown keysym
    match latinKey keysym with
    | some (latin, dead) =>
      -- Alt + AltChar, BaseChar
      if down then
        let _ ← doKeyboardEvent sys KEY_LEFTALT true
        let _ ← doKeyboardEvent sys dead.altChar true
        let _ ← doKeyboardEvent sys KEY_LEFTALT false
        let _ ← doKeyboardEvent sys dead.altChar false
      let _ ← doBasicKeyEvent sys latin.baseChar.toUInt16 down
    | none =>
      match spicialKeysymToDirectKey.find? (·.keysym == keysym) with
      | some entry =>
        let _ ← doKeyboardEvent sys entry.directKey down
      | none =>
        match symbolKeysymToDirectKey.find? (·.keysym == keysym) with
        | some entry =>
          if down then
            let _ ← doKeyboardEvent sys KEY_LEFTALT entry.needAlt
            let _ ← doKeyboardEvent sys KEY_LEFTSHIFT entry.needShift
          let _ ← doKeyboardEvent sys entry.directKey down
          if down then
            let _ ← doKeyboardEvent sys KEY_LEFTSHIFT false
            let _ ← doKeyboardEvent sys KEY_LEFTALT false
        | none =>
          let _ ← doBasicKeyEvent sys keysym.toUInt16 down

/-! ### What a key event writes -/

/-- One key change, with a report before and after it. -/
def keyWrites (code : UInt16) (down : Bool) : List InputEvent :=
  [⟨EV_SYN, SYN_REPORT, 0⟩, ⟨EV_KEY, code, if down then 1 else 0⟩, ⟨EV_SYN, SYN_REPORT, 0⟩]

/-- The table that answers for a keysym, with what it says. -/
inductive KeyPath where
  | latin (altChar base : UInt16)
  | special (directKey : UInt16)
  | symbol (directKey : UInt16) (needShift needAlt : Bool)
  | basic (code : UInt16)
  deriving DecidableEq, Repr

def keyPath (keysym : UInt32) : KeyPath :=
  match latinKey (fixUnknown keysym) with
  | some (latin, dead) => .latin dead.altChar latin.baseChar.toUInt16
  | none =>
    match spicialKeysymToDirectKey.find? (·.keysym == fixUnknown keysym) with
    | some entry => .special entry.directKey
    | none =>
      match symbolKeysymToDirectKey.find? (·.keysym == fixUnknown keysym) with
      | some entry => .symbol entry.directKey entry.needShift entry.needAlt
      | none => .basic (fixUnknown keysym).toUInt16

theorem latinKey_mem {keysym : UInt32} {pair : Latin1ToDeadChars × DeadCharsToAltChar}
    (found : latinKey keysym = some pair) : pair.1 ∈ latin1ToDeadChars ∧ pair.2 ∈ deadCharsToAltChar := by
  obtain ⟨entry, member, here⟩ := List.exists_of_findSome?_eq_some found
  split at here
  · obtain ⟨dead, found', rfl⟩ := Option.map_eq_some_iff.mp here
    exact ⟨member, List.mem_of_find?_eq_some found'⟩
  · cases here

def basicStrokes (code : UInt16) (down : Bool) : List (UInt16 × Bool) :=
  if (basicKey code).2 = 0 then []
  else (if (basicKey code).1 then [(KEY_LEFTSHIFT, down)] else []) ++ [((basicKey code).2, down)]

def KeyPath.strokes (down : Bool) : KeyPath → List (UInt16 × Bool)
  | .latin altChar base =>
    (if down then [(KEY_LEFTALT, true), (altChar, true), (KEY_LEFTALT, false), (altChar, false)] else []) ++
      basicStrokes base down
  | .special directKey => [(directKey, down)]
  | .symbol directKey needShift needAlt =>
    (if down then [(KEY_LEFTALT, needAlt), (KEY_LEFTSHIFT, needShift)] else []) ++ [(directKey, down)] ++
      (if down then [(KEY_LEFTSHIFT, false), (KEY_LEFTALT, false)] else [])
  | .basic code => basicStrokes code down

def eventsOf (strokes : List (UInt16 × Bool)) : List InputEvent :=
  strokes.flatMap fun stroke => keyWrites stroke.1 stroke.2

@[simp] theorem strokes_eventsOf (l : List (UInt16 × Bool)) : strokes (eventsOf l) = l := by
  induction l with
  | nil => rfl
  | cons stroke rest ih =>
    obtain ⟨code, down⟩ := stroke
    have here : strokes (keyWrites code down) = [(code, down)] := by cases down <;> rfl
    rw [eventsOf, List.flatMap_cons, strokes_append, here]
    exact congrArg ((code, down) :: ·) ih

section Succeeding

variable {sys : Sys} (succeed : sys.WritesSucceed)
include succeed

theorem doKeyboardEvent_emit (code : UInt16) (down : Bool) (d : Device) :
    doKeyboardEvent sys code down d = (.ok, d.emit (keyWrites code down)) := by
  cases down <;>
    simp [doKeyboardEvent, press, release, inject_emit succeed, keyWrites]

theorem doBasicKeyEvent_emit (code : UInt16) (down : Bool) (d : Device) :
    (doBasicKeyEvent sys code down d).2 = d.emit (eventsOf (basicStrokes code down)) := by
  unfold doBasicKeyEvent basicStrokes
  by_cases unknown : (basicKey code).2 = 0
  · simp [unknown, eventsOf]
  · cases shift : (basicKey code).1 <;>
      simp [unknown, shift, doKeyboardEvent_emit succeed, eventsOf]

/-- While writes succeed, `keyEvent` on an open device writes the key changes of its path. -/
theorem keyEvent_emit (down : Bool) (keysym : UInt32) (d : Device) (opened : d.mOpened = true) :
    (keyEvent sys down keysym d).2 = d.emit (eventsOf ((keyPath keysym).strokes down)) := by
  unfold keyEvent keyPath
  simp only [bind_apply, get_apply, opened]
  cases latinKey (fixUnknown keysym) with
  | some pair =>
    cases down <;>
      simp [doKeyboardEvent_emit succeed, doBasicKeyEvent_emit succeed, KeyPath.strokes, eventsOf]
  | none =>
    cases spicialKeysymToDirectKey.find? (·.keysym == fixUnknown keysym) with
    | some entry => simp [doKeyboardEvent_emit succeed, KeyPath.strokes, eventsOf]
    | none =>
      cases symbolKeysymToDirectKey.find? (·.keysym == fixUnknown keysym) with
      | some entry => cases down <;> simp [doKeyboardEvent_emit succeed, KeyPath.strokes, eventsOf]
      | none => simp [doBasicKeyEvent_emit succeed, KeyPath.strokes]

end Succeeding

/-! ### Runs of key events -/

def keyRun (sys : Sys) (run : List (Bool × UInt32)) (d : Device) : Device :=
  run.foldl (fun d event => (keyEvent sys event.1 event.2 d).2) d

theorem keyRun_emit {sys : Sys} (succeed : sys.WritesSucceed) (run : List (Bool × UInt32)) (d : Device)
    (opened : d.mOpened = true) :
    keyRun sys run d =
      d.emit (eventsOf (run.flatMap fun event => (keyPath event.2).strokes event.1)) := by
  induction run generalizing d with
  | nil => simp [keyRun, eventsOf]
  | cons event rest ih =>
    have first := keyEvent_emit succeed event.1 event.2 d opened
    have later := ih _ (show (keyEvent sys event.1 event.2 d).2.mOpened = true by rw [first]; exact opened)
    rw [keyRun, List.foldl_cons, ← keyRun, later, first, emit_emit, eventsOf, eventsOf, eventsOf,
      ← List.flatMap_append, List.flatMap_cons]

/-! ### Properties that compose -/

/-- A property of a computation, or a relation of the computations of two systems, that the write of an
event has and that survives sequencing and the guard. A key event reads nothing else of the device. -/
structure Composes (sys sys' : Sys) (P : ∀ α : Type, DeviceM α → DeviceM α → Prop) : Prop where
  returns : ∀ {α : Type} (a : α), P α (pure a) (pure a)
  sequence : ∀ {α β : Type} {x x' : DeviceM α} {f f' : α → DeviceM β},
    P α x x' → (∀ a, P β (f a) (f' a)) → P β (x >>= f) (x' >>= f')
  injected : ∀ type code value, P Status (inject sys type code value) (inject sys' type code value)
  guarded : ∀ {x x' : DeviceM Unit}, P Unit x x' →
    P Unit (get >>= fun d => if !d.mOpened then pure () else x) (get >>= fun d => if !d.mOpened then pure () else x')

namespace Composes

variable {sys sys' : Sys} {P : ∀ α : Type, DeviceM α → DeviceM α → Prop} (composes : Composes sys sys' P)

theorem choice {α : Type} {x x' y y' : DeviceM α} {c : Prop} [Decidable c] (yes : P α x x') (no : P α y y') :
    P α (if c then x else y) (if c then x' else y') := by
  split
  · exact yes
  · exact no

include composes

/-- A key change whose failure ends the call, with a report behind it. -/
theorem key (code : UInt16) (value : Int32) (failed succeeded : Status) :
    P Status
      (inject sys EV_KEY code value >>= fun status =>
        if status != .ok then pure failed
        else inject sys EV_SYN SYN_REPORT 0 >>= fun _ => pure succeeded)
      (inject sys' EV_KEY code value >>= fun status =>
        if status != .ok then pure failed
        else inject sys' EV_SYN SYN_REPORT 0 >>= fun _ => pure succeeded) := by
  apply composes.sequence (composes.injected _ _ _)
  intro status
  apply choice (composes.returns _)
  exact composes.sequence (composes.injected _ _ _) fun _ => composes.returns _

theorem doKeyboardEvent (code : UInt16) (down : Bool) :
    P Status (doKeyboardEvent sys code down) (doKeyboardEvent sys' code down) := by
  apply composes.sequence (composes.injected _ _ _)
  intro _
  exact choice (composes.key _ _ _ _) (composes.key _ _ _ _)

theorem doBasicKeyEvent (code : UInt16) (down : Bool) :
    P Status (doBasicKeyEvent sys code down) (doBasicKeyEvent sys' code down) := by
  apply choice (composes.returns _)
  apply choice
  · exact composes.sequence (composes.doKeyboardEvent _ _) fun _ => composes.doKeyboardEvent _ _
  · exact composes.doKeyboardEvent _ _

theorem keyEvent (down : Bool) (keysym : UInt32) :
    P Unit (keyEvent sys down keysym) (keyEvent sys' down keysym) := by
  have key : ∀ {rest rest' : DeviceM Unit} code value, P Unit rest rest' →
      P Unit (Input.doKeyboardEvent sys code value >>= fun _ => rest)
        (Input.doKeyboardEvent sys' code value >>= fun _ => rest') := fun code value rest =>
    composes.sequence (composes.doKeyboardEvent code value) fun _ => rest
  have none : P Unit (pure ()) (pure ()) := composes.returns ()
  have basic : ∀ code, P Unit (Input.doBasicKeyEvent sys code down >>= fun _ => pure ())
      (Input.doBasicKeyEvent sys' code down >>= fun _ => pure ()) := fun code =>
    composes.sequence (composes.doBasicKeyEvent code down) fun _ => none
  apply composes.guarded
  dsimp only
  cases latinKey (fixUnknown keysym) with
  | some pair =>
    apply choice
    · exact key _ _ (key _ _ (key _ _ (key _ _ (basic _))))
    · exact basic _
  | none =>
    dsimp only
    cases spicialKeysymToDirectKey.find? (·.keysym == fixUnknown keysym) with
    | some entry => exact key _ _ none
    | none =>
      dsimp only
      cases symbolKeysymToDirectKey.find? (·.keysym == fixUnknown keysym) with
      | some entry =>
        have released : P Unit
            (if down then
              Input.doKeyboardEvent sys KEY_LEFTSHIFT false >>= fun _ =>
                Input.doKeyboardEvent sys KEY_LEFTALT false >>= fun _ => pure ()
            else pure ())
            (if down then
              Input.doKeyboardEvent sys' KEY_LEFTSHIFT false >>= fun _ =>
                Input.doKeyboardEvent sys' KEY_LEFTALT false >>= fun _ => pure ()
            else pure ()) := choice (key _ _ (key _ _ none)) none
        have symbol := key entry.directKey down released
        apply choice
        · exact key _ _ (key _ _ symbol)
        · exact symbol
      | none => exact basic _

end Composes

end VncFlinger.Input
