import VncFlinger.Input.Shift
import VncFlinger.Library.Typing

/-!
# Text typed by a client

What a reader with the US layout makes of the key events that a client sends for its characters. A
key that is still held gives no second character, and the Shift of a capital lasts until the capital
is released.
-/

namespace VncFlinger.Input
open Evdev

/-! ### The layout -/

structure UsKey where
  code : UInt16
  base : UInt32
  shifted : UInt32
  deriving DecidableEq, Repr

/-- The keys of a US keyboard that give characters, row by row. -/
def usKeys : List UsKey :=
  [⟨KEY_GRAVE, 0x60, 0x7e⟩, ⟨KEY_1, 0x31, 0x21⟩, ⟨KEY_2, 0x32, 0x40⟩, ⟨KEY_3, 0x33, 0x23⟩,
   ⟨KEY_4, 0x34, 0x24⟩, ⟨KEY_5, 0x35, 0x25⟩, ⟨KEY_6, 0x36, 0x5e⟩, ⟨KEY_7, 0x37, 0x26⟩,
   ⟨KEY_8, 0x38, 0x2a⟩, ⟨KEY_9, 0x39, 0x28⟩, ⟨KEY_0, 0x30, 0x29⟩, ⟨KEY_MINUS, 0x2d, 0x5f⟩,
   ⟨KEY_EQUAL, 0x3d, 0x2b⟩,
   ⟨16, 0x71, 0x51⟩, ⟨17, 0x77, 0x57⟩, ⟨18, 0x65, 0x45⟩, ⟨19, 0x72, 0x52⟩, ⟨20, 0x74, 0x54⟩,
   ⟨21, 0x79, 0x59⟩, ⟨22, 0x75, 0x55⟩, ⟨23, 0x69, 0x49⟩, ⟨24, 0x6f, 0x4f⟩, ⟨25, 0x70, 0x50⟩,
   ⟨KEY_LEFTBRACE, 0x5b, 0x7b⟩, ⟨KEY_RIGHTBRACE, 0x5d, 0x7d⟩, ⟨KEY_BACKSLASH, 0x5c, 0x7c⟩,
   ⟨30, 0x61, 0x41⟩, ⟨31, 0x73, 0x53⟩, ⟨32, 0x64, 0x44⟩, ⟨33, 0x66, 0x46⟩, ⟨34, 0x67, 0x47⟩,
   ⟨35, 0x68, 0x48⟩, ⟨36, 0x6a, 0x4a⟩, ⟨37, 0x6b, 0x4b⟩, ⟨38, 0x6c, 0x4c⟩,
   ⟨KEY_SEMICOLON, 0x3b, 0x3a⟩, ⟨KEY_APOSTROPHE, 0x27, 0x22⟩,
   ⟨44, 0x7a, 0x5a⟩, ⟨45, 0x78, 0x58⟩, ⟨46, 0x63, 0x43⟩, ⟨47, 0x76, 0x56⟩, ⟨48, 0x62, 0x42⟩,
   ⟨49, 0x6e, 0x4e⟩, ⟨50, 0x6d, 0x4d⟩, ⟨KEY_COMMA, 0x2c, 0x3c⟩, ⟨KEY_DOT, 0x2e, 0x3e⟩,
   ⟨KEY_SLASH, 0x2f, 0x3f⟩, ⟨KEY_SPACE, 0x20, 0x20⟩]

def usLayout : Typing.Layout UInt16 UInt32 where
  shifting := [KEY_LEFTSHIFT, KEY_RIGHTSHIFT]
  muting := [KEY_LEFTALT, KEY_RIGHTALT, KEY_LEFTCTRL, KEY_RIGHTCTRL]
  char k shift := (usKeys.find? (·.code == k)).map fun key => if shift then key.shifted else key.base

/-- The modifiers that a character of ASCII leaves alone. -/
def idleModifiers : List UInt16 := [KEY_RIGHTSHIFT, KEY_LEFTALT, KEY_RIGHTALT, KEY_LEFTCTRL, KEY_RIGHTCTRL]

def Printable (keysym : UInt32) : Prop := 0x20 ≤ keysym ∧ keysym ≤ 0x7e

instance : DecidablePred Printable := fun keysym => inferInstanceAs (Decidable (0x20 ≤ keysym ∧ keysym ≤ 0x7e))

/-- The text a reader finds in everything written so far. -/
def textOf (d : Device) : List UInt32 := usLayout.text ∅ (strokes d.stream)

/-- A press adds its own character to the text, and a release adds nothing. -/
def ReadAsTyped (sys : Sys) (d : Device) (event : Bool × UInt32) : Prop :=
  textOf (keyStep sys d event) = textOf d ++ if event.1 then [event.2] else []

/-- A press finds its key up, and a small letter or a digit finds the Shift up as well. -/
def Unhindered (d : Device) (event : Bool × UInt32) : Prop :=
  event.1 = true → (∀ k ∈ (keyPath event.2).scanCode, k ∉ held d.stream) ∧
    (plain event.2 → KEY_LEFTSHIFT ∉ held d.stream)

/-! ### The characters of ASCII -/

/-- What the press of a character writes: its key, with the Shift it needs. -/
structure Spelled (keysym : UInt32) (k : UInt16) (shift : Bool) : Prop where
  own : (keyPath keysym).scanCode = some k
  key : k ∉ KEY_LEFTSHIFT :: idleModifiers
  char : usLayout.char k shift = some keysym
  written : (keyPath keysym).strokes true = [(KEY_LEFTALT, false), (KEY_LEFTSHIFT, shift), (k, true),
      (KEY_LEFTSHIFT, false), (KEY_LEFTALT, false)] ∧ ¬ plain keysym ∨
    (keyPath keysym).strokes true = [(KEY_LEFTSHIFT, true), (k, true)] ∧ shift = true ∧ ¬ plain keysym ∨
    (keyPath keysym).strokes true = [(k, true)] ∧ shift = false ∧ plain keysym ∧
      usLayout.char k true ≠ some keysym

instance (keysym : UInt32) (k : UInt16) (shift : Bool) : Decidable (Spelled keysym k shift) :=
  decidable_of_iff' ((keyPath keysym).scanCode = some k ∧ k ∉ KEY_LEFTSHIFT :: idleModifiers ∧
    usLayout.char k shift = some keysym ∧ _)
    ⟨fun h => ⟨h.own, h.key, h.char, h.written⟩, fun h => ⟨h.1, h.2.1, h.2.2.1, h.2.2.2⟩⟩

theorem ascii_spelled : (List.range 95).all (fun n => usKeys.any fun key =>
    decide (Spelled (n + 0x20).toUInt32 key.code false) || decide (Spelled (n + 0x20).toUInt32 key.code true)) =
      true := by
  decide +kernel

theorem printable_spelled {keysym : UInt32} (printable : Printable keysym) :
    ∃ k shift, Spelled keysym k shift := by
  obtain ⟨low, high⟩ := printable
  rw [UInt32.le_iff_toNat_le] at low high
  have least : (0x20 : UInt32).toNat = 0x20 := rfl
  have most : (0x7e : UInt32).toNat = 0x7e := rfl
  rw [least] at low
  rw [most] at high
  have inside : keysym.toNat - 0x20 ∈ List.range 95 := List.mem_range.mpr (by omega)
  have checked := List.all_eq_true.mp ascii_spelled _ inside
  have back : (keysym.toNat - 0x20 + 0x20).toUInt32 = keysym := by
    rw [Nat.sub_add_cancel low]
    simp
  rw [back, List.any_eq_true] at checked
  obtain ⟨key, _, spelled⟩ := checked
  rcases Bool.or_eq_true_iff.mp spelled with unshifted | shifted
  · exact ⟨key.code, false, of_decide_eq_true unshifted⟩
  · exact ⟨key.code, true, of_decide_eq_true shifted⟩

/-! ### One press -/

variable {keys : Finset UInt16} {keysym : UInt32} {k : UInt16} {shift : Bool}

def Calm (keys : Finset UInt16) : Prop := ∀ k ∈ idleModifiers, k ∉ keys

theorem Calm.muted (calm : Calm keys) : usLayout.muted keys = false := by
  have up : ∀ k ∈ usLayout.muting, k ∉ keys := fun k member => calm k (List.mem_cons_of_mem _ member)
  simpa [Typing.Layout.muted] using up

theorem Calm.shifted (calm : Calm keys) : usLayout.shifted keys = decide (KEY_LEFTSHIFT ∈ keys) := by
  have right := calm KEY_RIGHTSHIFT List.mem_cons_self
  simp [Typing.Layout.shifted, usLayout, right]

theorem idle_ne_shift {k : UInt16} (idle : k ∈ idleModifiers) : k ≠ KEY_LEFTSHIFT := by
  rintro rfl
  exact absurd idle (by decide)

theorem Calm.replay (calm : Calm keys) {l : List (UInt16 × Bool)}
    (idle : ∀ k ∈ idleModifiers, (k, true) ∉ l) : Calm (Strokes.replay keys l) := by
  intro k member down
  rcases Strokes.mem_replay.mp down with last | ⟨_, before⟩
  · exact idle k member (Strokes.lastStroke_mem last)
  · exact calm k member before

theorem modifier_silent {down : Bool} {k : UInt16} (modifier : k = KEY_LEFTSHIFT ∨ k = KEY_LEFTALT) :
    usLayout.given keys (k, down) = none := by
  apply Typing.given_silent
  rcases modifier with rfl | rfl <;> decide

theorem Spelled.shift_up (spelled : Spelled keysym k shift) : k ≠ KEY_LEFTSHIFT ∧ k ≠ KEY_LEFTALT := by
  have key := spelled.key
  constructor
  · rintro rfl
    exact key List.mem_cons_self
  · rintro rfl
    exact key (by decide)

/-- Under the Shift it needs, a key gives the character unless it is held. -/
theorem Spelled.given_iff (spelled : Spelled keysym k shift) (calm : Calm keys)
    (fits : decide (KEY_LEFTSHIFT ∈ keys) = shift) : usLayout.given keys (k, true) = some keysym ↔ k ∉ keys := by
  by_cases down : k ∈ keys
  · simp [Typing.given_held down, down]
  · rw [Typing.given_press down calm.muted, calm.shifted, fits]
    exact iff_of_true spelled.char down

theorem toList_eq_singleton {α : Type} {x : Option α} {a : α} : x.toList = [a] ↔ x = some a := by
  cases x <;> simp

theorem Spelled.read_iff (spelled : Spelled keysym k shift) (calm : Calm keys) :
    usLayout.text keys ((keyPath keysym).strokes true) = [keysym] ↔
      k ∉ keys ∧ (plain keysym → KEY_LEFTSHIFT ∉ keys) := by
  obtain ⟨notShift, notAlt⟩ := spelled.shift_up
  rcases spelled.written with ⟨symbol, other⟩ | ⟨capital, rfl, other⟩ | ⟨small, rfl, isPlain, differs⟩
  · have set : Calm (Strokes.replay keys [(KEY_LEFTALT, false), (KEY_LEFTSHIFT, shift)]) :=
      calm.replay fun k member => by simp [idle_ne_shift member]
    have shifts : decide (KEY_LEFTSHIFT ∈ Strokes.replay keys [(KEY_LEFTALT, false), (KEY_LEFTSHIFT, shift)]) =
        shift := by
      cases shift <;> simp [Strokes.apply]
    have same : k ∈ Strokes.replay keys [(KEY_LEFTALT, false), (KEY_LEFTSHIFT, shift)] ↔ k ∈ keys := by
      cases shift <;> simp [Strokes.apply, notShift, notAlt]
    have text : usLayout.text keys ((keyPath keysym).strokes true) =
        (usLayout.given (Strokes.replay keys [(KEY_LEFTALT, false), (KEY_LEFTSHIFT, shift)]) (k, true)).toList := by
      rw [symbol]
      simp [modifier_silent]
    rw [text, toList_eq_singleton, spelled.given_iff set shifts, same]
    exact (and_iff_left fun isPlain => absurd isPlain other).symm
  · have set : Calm (Strokes.apply keys (KEY_LEFTSHIFT, true)) := calm.replay (l := [(KEY_LEFTSHIFT, true)])
      fun k member => by simp [idle_ne_shift member]
    have shifts : decide (KEY_LEFTSHIFT ∈ Strokes.apply keys (KEY_LEFTSHIFT, true)) = true := by
      simp [Strokes.apply]
    have same : k ∈ Strokes.apply keys (KEY_LEFTSHIFT, true) ↔ k ∈ keys := by simp [Strokes.apply, notShift]
    have text : usLayout.text keys ((keyPath keysym).strokes true) =
        (usLayout.given (Strokes.apply keys (KEY_LEFTSHIFT, true)) (k, true)).toList := by
      rw [capital]
      simp [modifier_silent]
    rw [text, toList_eq_singleton, spelled.given_iff set shifts, same]
    exact (and_iff_left fun isPlain => absurd isPlain other).symm
  · have text : usLayout.text keys ((keyPath keysym).strokes true) = (usLayout.given keys (k, true)).toList := by
      rw [small]
      simp
    rw [text, toList_eq_singleton]
    by_cases up : KEY_LEFTSHIFT ∈ keys
    · refine iff_of_false ?_ fun both => both.2 isPlain up
      intro read
      by_cases down : k ∈ keys
      · rw [Typing.given_held down] at read
        cases read
      · rw [Typing.given_press down calm.muted, calm.shifted, decide_eq_true up] at read
        exact differs read
    · rw [spelled.given_iff calm (decide_eq_false up)]
      exact (and_iff_left fun _ => up).symm

/-! ### Runs -/

variable {sys : Sys} {d : Device} {event : Bool × UInt32}

/-- An open device on which no modifier is held but the left Shift. -/
structure Typeable (d : Device) : Prop where
  opened : d.mOpened = true
  calm : Calm (held d.stream)

theorem keyStep_stream (succeed : sys.WritesSucceed) (opened : d.mOpened = true) (event : Bool × UInt32) :
    (keyStep sys d event).stream = d.stream ++ eventsOf ((keyPath event.2).strokes event.1) := by
  rw [keyStep, keyEvent_emit succeed event.1 event.2 d opened, stream_emit]

theorem textOf_step (succeed : sys.WritesSucceed) (opened : d.mOpened = true) (event : Bool × UInt32) :
    textOf (keyStep sys d event) =
      textOf d ++ usLayout.text (held d.stream) ((keyPath event.2).strokes event.1) := by
  rw [textOf, keyStep_stream succeed opened, strokes_append, strokes_eventsOf, Typing.text_append, textOf, held]

theorem Spelled.idle (spelled : Spelled keysym k shift) (down : Bool) :
    ∀ m ∈ idleModifiers, (m, true) ∉ (keyPath keysym).strokes down := by
  intro m member written
  cases down with
  | false => exact Bool.noConfusion (release_lifts keysym (m, true) written)
  | true =>
    have other : m ≠ k := fun same => spelled.key (List.mem_cons_of_mem _ (same ▸ member))
    have notShift : m ≠ KEY_LEFTSHIFT := by
      rintro rfl
      exact absurd member (by decide)
    rcases spelled.written with ⟨symbol, _⟩ | ⟨capital, _⟩ | ⟨small, _⟩
    · rw [symbol] at written
      simp [other, notShift] at written
    · rw [capital] at written
      simp [other, notShift] at written
    · rw [small] at written
      simp [other] at written

theorem typeable_step (succeed : sys.WritesSucceed) (typeable : Typeable d) (printable : Printable event.2) :
    Typeable (keyStep sys d event) := by
  obtain ⟨k, shift, spelled⟩ := printable_spelled printable
  constructor
  · rw [keyStep, keyEvent_emit succeed event.1 event.2 d typeable.opened]
    exact typeable.opened
  · rw [keyStep_stream succeed typeable.opened, held_append, strokes_eventsOf]
    exact typeable.calm.replay (spelled.idle event.1)

theorem readAsTyped_iff (succeed : sys.WritesSucceed) (typeable : Typeable d) (printable : Printable event.2) :
    ReadAsTyped sys d event ↔ Unhindered d event := by
  obtain ⟨k, shift, spelled⟩ := printable_spelled printable
  obtain ⟨down, keysym⟩ := event
  unfold ReadAsTyped Unhindered
  rw [textOf_step succeed typeable.opened, List.append_cancel_left_eq]
  cases down with
  | false => exact iff_of_true (Typing.text_releases (release_lifts keysym)) fun press => Bool.noConfusion press
  | true =>
    have own : (keyPath keysym).scanCode = some k := spelled.own
    rw [if_pos rfl, spelled.read_iff typeable.calm]
    simp [own]

/-- In any presses and releases of printable characters, each press is read as its own character exactly
when it finds its key up, and the Shift up if it is a small letter or a digit. -/
theorem text_read_iff (succeed : sys.WritesSucceed) (opened : d.mOpened = true) (clear : held d.stream = ∅)
    (run : List (Bool × UInt32)) (printable : ∀ event ∈ run, Printable event.2) :
    Runs.Along (keyStep sys) (fun d event => ReadAsTyped sys d event ↔ Unhindered d event) d run := by
  have start : Typeable d := by
    refine ⟨opened, ?_⟩
    rw [clear]
    exact fun k _ down => nomatch down
  refine Runs.along_of_invariant start fun d event member typeable => ?_
  exact ⟨readAsTyped_iff succeed typeable (printable event member),
    typeable_step succeed typeable (printable event member)⟩

/-- An `A` that is still down when `b` is pressed, and then an `x` for itself. -/
theorem text_read_rollover :
    Runs.Along (keyStep .succeeding) (fun d event => ReadAsTyped .succeeding d event ↔ Unhindered d event)
      (.opened false false) [(true, 0x41), (true, 0x62), (false, 0x41), (false, 0x62), (true, 0x78)] :=
  text_read_iff (fun _ => rfl) rfl (by decide) _ (by simp [Printable])

/-! ### Key by key -/

def taps (text : List UInt32) : List (Bool × UInt32) :=
  text.flatMap fun keysym => [(true, keysym), (false, keysym)]

theorem tap_released (keysym : UInt32) : Strokes.replay ∅ (keyPath keysym).tap = ∅ := by
  ext m
  rw [Strokes.mem_replay]
  have lifted := Strokes.tap_lifted (fun down keysym => (keyPath keysym).strokes down) release_lifts
    (fun _ _ => release_covers) keysym m
  constructor
  · rintro (down | ⟨_, impossible⟩)
    · exact absurd down lifted
    · cases impossible
  · intro impossible
    cases impossible

theorem calm_empty : Calm ∅ := fun _ _ down => nomatch down

theorem tap_read (succeed : sys.WritesSucceed) (opened : d.mOpened = true) (clear : held d.stream = ∅)
    (printable : Printable keysym) :
    textOf (keyRun sys [(true, keysym), (false, keysym)] d) = textOf d ++ [keysym] ∧
      held (keyRun sys [(true, keysym), (false, keysym)] d).stream = ∅ ∧
      (keyRun sys [(true, keysym), (false, keysym)] d).mOpened = true := by
  obtain ⟨k, shift, spelled⟩ := printable_spelled printable
  have written := keyRun_emit succeed [(true, keysym), (false, keysym)] d opened
  have both : ([(true, keysym), (false, keysym)].flatMap fun event => (keyPath event.2).strokes event.1) =
      (keyPath keysym).tap := by
    simp [KeyPath.tap]
  have read : usLayout.text ∅ (keyPath keysym).tap = [keysym] := by
    rw [KeyPath.tap, Typing.text_append, Typing.text_releases (release_lifts keysym), List.append_nil]
    exact (spelled.read_iff calm_empty).mpr ⟨Finset.notMem_empty k, fun _ => Finset.notMem_empty _⟩
  rw [both] at written
  refine ⟨?_, ?_, by rw [written]; exact opened⟩
  · rw [written, textOf, stream_emit, strokes_append, strokes_eventsOf, Typing.text_append]
    rw [show Strokes.replay ∅ (strokes d.stream) = ∅ from clear, read, textOf]
  · rw [written, stream_emit, held_append, strokes_eventsOf, clear, tap_released]

/-- Any printable text typed key by key is read back as it is. -/
theorem tapped_text_read (succeed : sys.WritesSucceed) (opened : d.mOpened = true) (clear : held d.stream = ∅)
    (text : List UInt32) (printable : ∀ keysym ∈ text, Printable keysym) :
    textOf (keyRun sys (taps text) d) = textOf d ++ text ∧ held (keyRun sys (taps text) d).stream = ∅ := by
  induction text generalizing d with
  | nil => exact ⟨(List.append_nil _).symm, clear⟩
  | cons keysym rest ih =>
    obtain ⟨here, clear', opened'⟩ := tap_read succeed opened clear (printable keysym List.mem_cons_self)
    have split : keyRun sys (taps (keysym :: rest)) d =
        keyRun sys (taps rest) (keyRun sys [(true, keysym), (false, keysym)] d) := by
      rw [keyRun, keyRun, keyRun, ← List.foldl_append]
      rfl
    obtain ⟨later, up⟩ := ih opened' clear' fun keysym member => printable keysym (List.mem_cons_of_mem _ member)
    rw [split]
    exact ⟨by rw [later, here, List.append_assoc]; rfl, up⟩

/-- `It's 5%!` -/
theorem tapped_text_sentence :
    textOf (keyRun .succeeding (taps [0x49, 0x74, 0x27, 0x73, 0x20, 0x35, 0x25, 0x21]) (.opened true false)) =
      textOf (.opened true false) ++ [0x49, 0x74, 0x27, 0x73, 0x20, 0x35, 0x25, 0x21] ∧
    held (keyRun .succeeding (taps [0x49, 0x74, 0x27, 0x73, 0x20, 0x35, 0x25, 0x21]) (.opened true false)).stream = ∅ :=
  tapped_text_read (fun _ => rfl) rfl (by decide) _ (by simp [Printable])

end VncFlinger.Input
