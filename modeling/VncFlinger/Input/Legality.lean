import VncFlinger.Library.Framing
import VncFlinger.Input.Buttons

/-!
# The events of a device

What `start` enabled covers every event written on the device it started, in each mode, and each
report is preceded by at most one key.
-/

namespace VncFlinger.Input
open Evdev

/-! ### Enabled events -/

/-- The type of an event is enabled, and its code by the bits of that type. A report has no code. -/
def Enabled (bits : List (SetBit × UInt16)) (e : InputEvent) : Prop :=
  (.evBit, e.type) ∈ bits ∧
    (e.type = EV_SYN ∧ e.code = SYN_REPORT ∨ e.type = EV_KEY ∧ (.keyBit, e.code) ∈ bits ∨
      e.type = EV_REL ∧ (.relBit, e.code) ∈ bits ∨ e.type = EV_ABS ∧ (.absBit, e.code) ∈ bits)

/-- The bits that `start` enables in a mode. -/
def modeBits (istouch : Bool) : List (SetBit × UInt16) :=
  (if istouch then kOptions else mOptions) ++ keyBits istouch

theorem setBits_enabled {sys : Sys} {bits : List (SetBit × UInt16)} {d : Device}
    (ok : (setBits sys bits d).1 = true) :
    (setBits sys bits d).2.kernel.enabled = d.kernel.enabled ++ bits := by
  induction bits generalizing d with
  | nil => exact (List.append_nil _).symm
  | cons entry rest ih =>
    obtain ⟨cmd, bit⟩ := entry
    rw [setBits, bind_apply, ite_apply] at ok ⊢
    cases enabled : sys.ioctlOk d.kernel.calls with
    | false => simp [setBit, enabled] at ok
    | true =>
      have first : (setBit sys cmd bit d).1 = true := enabled
      have bits : (setBit sys cmd bit d).2.kernel.enabled = d.kernel.enabled ++ [(cmd, bit)] := by
        simp [setBit, enabled]
      rw [if_pos first] at ok ⊢
      rw [ih ok, bits, List.append_assoc]
      rfl

theorem setUp_enabled {sys : Sys} {width height : UInt32} {istouch relative : Bool} {d d' : Device}
    (ok : setUp sys width height istouch relative d = (.ok, d')) :
    d'.kernel.enabled = d.kernel.enabled ++ modeBits istouch := by
  unfold setUp at ok
  obtain ⟨options, ok⟩ := orErr_ok ok
  obtain ⟨keys, ok⟩ := orErr_ok ok
  have enabled := setBits_enabled keys
  rw [setBits_enabled options, List.append_assoc] at enabled
  generalize (setBits sys (keyBits istouch) _).2 = configured at ok enabled
  rw [bind_apply, modify_apply] at ok
  have ok := (orErr_ok (orErr_ok ok).2).2
  rw [bind_apply, modify_apply, pure_apply] at ok
  have same := (Prod.mk.inj ok).2
  subst same
  exact enabled

theorem start_enabled {sys : Sys} {width height : UInt32} {istouch relative : Bool} {d d' : Device}
    (ok : start sys width height istouch relative d = (.ok, d')) : d'.kernel.enabled = modeBits istouch := by
  obtain ⟨opened, set⟩ := start_setUp ok
  rw [setUp_enabled set]
  simp [Device.opening, Device.reset, sysOpen, opened]

/-! ### The codes that are written -/

/-- A key code that is enabled in both modes. -/
def KeyCode (code : UInt16) : Prop := code.toNat < KEY_MAX ∧ code ≠ BTN_TOUCH ∧ code ≠ BTN_MOUSE

instance (code : UInt16) : Decidable (KeyCode code) := inferInstanceAs (Decidable (_ ∧ _ ∧ _))

theorem mem_keyBits {istouch : Bool} {code : UInt16} (below : code.toNat < KEY_MAX)
    (own : code ≠ if istouch then BTN_MOUSE else BTN_TOUCH) : (.keyBit, code) ∈ keyBits istouch := by
  apply List.mem_map_of_mem
  apply List.mem_filter.mpr
  refine ⟨List.mem_map.mpr ⟨code.toNat, List.mem_range.mpr below, ?_⟩, ?_⟩
  · exact UInt16.ofNat_toNat
  · cases istouch <;> simpa using own

theorem enabled_key {istouch : Bool} {code : UInt16} {value : Int32} (below : code.toNat < KEY_MAX)
    (own : code ≠ if istouch then BTN_MOUSE else BTN_TOUCH) :
    Enabled (modeBits istouch) ⟨EV_KEY, code, value⟩ := by
  refine ⟨?_, Or.inr (Or.inl ⟨rfl, ?_⟩)⟩
  · cases istouch <;> exact List.mem_cons_self
  · exact List.mem_append_right _ (mem_keyBits below own)

theorem enabled_option {istouch : Bool} {entry : SetBit × UInt16} (option : entry ∈ mOptions) :
    entry ∈ modeBits istouch := by
  apply List.mem_append_left
  cases istouch with
  | false => exact option
  | true => exact List.mem_append_left [(.propBit, INPUT_PROP_DIRECT)] option

theorem enabled_sync (istouch : Bool) : Enabled (modeBits istouch) sync :=
  ⟨enabled_option (by decide), Or.inl ⟨rfl, rfl⟩⟩

theorem enabled_rel {istouch : Bool} {code : UInt16} {value : Int32} (option : (.relBit, code) ∈ mOptions) :
    Enabled (modeBits istouch) ⟨EV_REL, code, value⟩ :=
  ⟨enabled_option (show (.evBit, EV_REL) ∈ mOptions by decide),
    Or.inr (Or.inr (Or.inl ⟨rfl, enabled_option option⟩))⟩

theorem enabled_abs {istouch : Bool} {code : UInt16} {value : Int32} (option : (.absBit, code) ∈ mOptions) :
    Enabled (modeBits istouch) ⟨EV_ABS, code, value⟩ :=
  ⟨enabled_option (show (.evBit, EV_ABS) ∈ mOptions by decide),
    Or.inr (Or.inr (Or.inr ⟨rfl, enabled_option option⟩))⟩

/-- The code of a key, not of a button. The buttons of a mouse and of a touch screen have codes above those
of the keys. -/
def OfKeyboard (code : UInt16) : Prop := code.toNat < 0x110 ∨ code = KEY_NEXT

instance (code : UInt16) : Decidable (OfKeyboard code) := inferInstanceAs (Decidable (_ ∨ _))

theorem OfKeyboard.keyCode {code : UInt16} (own : OfKeyboard code) : KeyCode code := by
  rcases own with small | rfl
  · refine ⟨Nat.lt_trans small (by decide), ?_, ?_⟩
    · rintro rfl
      exact absurd small (by decide)
    · rintro rfl
      exact absurd small (by decide)
  · decide

theorem OfKeyboard.not_button {code : UInt16} (own : OfKeyboard code) :
    code ≠ BTN_LEFT ∧ code ≠ BTN_RIGHT ∧ code ≠ BTN_MIDDLE := by
  refine ⟨?_, ?_, ?_⟩ <;> rintro rfl <;> exact absurd own (by decide)

theorem qwerty_ofKeyboard (n : Nat) : OfKeyboard (qwerty.getD n 0) := by
  rw [List.getD_eq_getElem?_getD]
  cases found : qwerty[n]? with
  | none => decide
  | some code =>
    have all : qwerty.all (fun code => decide (OfKeyboard code)) = true := by decide
    exact of_decide_eq_true (List.all_eq_true.mp all code (List.mem_of_getElem? found))

theorem basicKey_ofKeyboard (code : UInt16) : OfKeyboard (basicKey code).2 := by
  unfold basicKey
  split
  · exact qwerty_ofKeyboard _
  · split
    · exact qwerty_ofKeyboard _
    · split
      · rename_i digit
        obtain ⟨low, high⟩ := digit
        have least : 0x31 ≤ code.toNat := UInt16.le_iff_toNat_le.mp low
        have most : code.toNat ≤ 0x39 := UInt16.le_iff_toNat_le.mp high
        refine Or.inl ?_
        show (code - 0x31 + 2).toNat < 0x110
        rw [UInt16.toNat_add, UInt16.toNat_sub_of_le _ _ low]
        show (code.toNat - 0x31 + 2) % 65536 < 0x110
        omega
      · split <;> decide

theorem basicStrokes_ofKeyboard (code : UInt16) (down : Bool) :
    ∀ stroke ∈ basicStrokes code down, OfKeyboard stroke.1 := by
  unfold basicStrokes
  split
  · simp
  · intro stroke member
    rcases List.mem_append.mp member with shift | key
    · split at shift
      · rw [List.mem_singleton.mp shift]
        show OfKeyboard KEY_LEFTSHIFT
        decide
      · cases shift
    · rw [List.mem_singleton.mp key]
      exact basicKey_ofKeyboard code

/-- What the tables say of the keys of a path. -/
def KeyPath.OfKeyboard : KeyPath → Prop
  | .latin altChar _ => Input.OfKeyboard altChar
  | .special directKey => Input.OfKeyboard directKey
  | .symbol directKey _ _ => Input.OfKeyboard directKey
  | .basic _ => True

theorem keyPath_ofKeyboard (keysym : UInt32) : (keyPath keysym).OfKeyboard := by
  have latins : ∀ entry ∈ deadCharsToAltChar, OfKeyboard entry.altChar := by decide
  have specials : ∀ entry ∈ spicialKeysymToDirectKey, OfKeyboard entry.directKey := by decide
  have symbols : ∀ entry ∈ symbolKeysymToDirectKey, OfKeyboard entry.directKey := by decide
  unfold keyPath
  cases latin : latinKey (fixUnknown keysym) with
  | some pair => exact latins _ (latinKey_mem latin).2
  | none =>
    cases special : spicialKeysymToDirectKey.find? (·.keysym == fixUnknown keysym) with
    | some entry => exact specials entry (List.mem_of_find?_eq_some special)
    | none =>
      cases symbol : symbolKeysymToDirectKey.find? (·.keysym == fixUnknown keysym) with
      | some entry => exact symbols entry (List.mem_of_find?_eq_some symbol)
      | none => trivial

/-- Every key of a path is Alt, Shift, a letter or digit, or in a table. -/
theorem strokes_ofKeyboard (keysym : UInt32) (down : Bool) :
    ∀ stroke ∈ (keyPath keysym).strokes down, OfKeyboard stroke.1 := by
  have alt : OfKeyboard KEY_LEFTALT := by decide
  have shift : OfKeyboard KEY_LEFTSHIFT := by decide
  have keys := keyPath_ofKeyboard keysym
  intro stroke member
  cases path : keyPath keysym with
  | latin altChar base =>
    rw [path] at keys member
    have key : OfKeyboard altChar := keys
    rcases List.mem_append.mp member with dead | basic
    · cases down with
      | false => cases dead
      | true =>
        simp only [if_true, List.mem_cons, List.not_mem_nil, or_false] at dead
        rcases dead with rfl | rfl | rfl | rfl <;> assumption
    · exact basicStrokes_ofKeyboard base down stroke basic
  | special directKey =>
    rw [path] at keys member
    rw [List.mem_singleton.mp member]
    exact keys
  | symbol directKey needShift needAlt =>
    rw [path] at keys member
    have key : OfKeyboard directKey := keys
    cases down with
    | false =>
      rw [List.mem_singleton.mp member]
      exact key
    | true =>
      simp only [KeyPath.strokes, if_true, List.cons_append, List.nil_append, List.mem_cons,
        List.not_mem_nil, or_false] at member
      rcases member with rfl | rfl | rfl | rfl | rfl <;> assumption
  | basic code =>
    rw [path] at member
    exact basicStrokes_ofKeyboard code down stroke member

/-! ### Legal streams -/

def isKey (e : InputEvent) : Bool := e.type == EV_KEY

def isReport (e : InputEvent) : Bool := e.type == EV_SYN && e.code == SYN_REPORT

/-- Every event is enabled, no two keys stand between two reports, and the last event is a report. -/
structure Legal (bits : List (SetBit × UInt16)) (events : List InputEvent) : Prop where
  enabled : ∀ e ∈ events, Enabled bits e
  framed : Framing.Framed isKey isReport events

variable {bits : List (SetBit × UInt16)} {istouch : Bool}

theorem legal_nil : Legal bits [] := ⟨by simp, Framing.framed_nil⟩

theorem Legal.append {first second : List InputEvent} (legal : Legal bits first) (later : Legal bits second) :
    Legal bits (first ++ second) :=
  ⟨List.forall_mem_append.mpr ⟨legal.enabled, later.enabled⟩, legal.framed.append later.framed⟩

theorem Legal.cons {e e' : InputEvent} {events : List InputEvent} (enabled : Enabled bits e)
    (other : isKey e = false) (legal : Legal bits (e' :: events)) : Legal bits (e :: e' :: events) :=
  ⟨List.forall_mem_cons.mpr ⟨enabled, legal.enabled⟩, legal.framed.cons other⟩

theorem legal_flatMap {α : Type} {f : α → List InputEvent} (l : List α) (each : ∀ a ∈ l, Legal bits (f a)) :
    Legal bits (l.flatMap f) := by
  refine ⟨?_, Framing.framed_flatMap l fun a member => (each a member).framed⟩
  intro e member
  obtain ⟨a, here, own⟩ := List.mem_flatMap.mp member
  exact (each a here).enabled e own

theorem legal_sync : Legal (modeBits istouch) [sync] :=
  ⟨List.forall_mem_singleton.mpr (enabled_sync istouch), Framing.framed_report rfl⟩

theorem legal_key {code : UInt16} {value : Int32} (below : code.toNat < KEY_MAX)
    (own : code ≠ if istouch then BTN_MOUSE else BTN_TOUCH) :
    Legal (modeBits istouch) [⟨EV_KEY, code, value⟩, sync] := by
  refine ⟨?_, Framing.framed_single rfl rfl⟩
  exact List.forall_mem_cons.mpr ⟨enabled_key below own, legal_sync.enabled⟩

theorem Legal.abs {e : InputEvent} {events : List InputEvent} (legal : Legal (modeBits istouch) (e :: events))
    (x y : Int32) : Legal (modeBits istouch) (absWrites x y ++ e :: events) := by
  have second : Enabled (modeBits istouch) ⟨EV_ABS, ABS_Y, y⟩ := enabled_abs (by decide)
  exact (legal.cons second rfl).cons (enabled_abs (by decide)) rfl

theorem legal_keyWrites {code : UInt16} (known : KeyCode code) (down : Bool) :
    Legal (modeBits istouch) (keyWrites code down) := by
  apply Legal.cons (enabled_sync istouch) rfl
  apply legal_key known.1
  cases istouch with
  | false => exact known.2.1
  | true => exact known.2.2

theorem legal_moveWrites {d : Device} (x y diffX diffY : Int32) :
    Legal (modeBits istouch) (moveWrites d x y diffX diffY) := by
  unfold moveWrites
  split
  · exact legal_nil
  · split
    · have second : Enabled (modeBits istouch) ⟨EV_REL, REL_Y, diffY⟩ := enabled_rel (by decide)
      exact (legal_sync.cons second rfl).cons (enabled_rel (by decide)) rfl
    · exact legal_sync.abs x y

theorem buttonCode_own (touch : Bool) (b : Button) :
    (b.code touch).toNat < KEY_MAX ∧ b.code touch ≠ if touch then BTN_MOUSE else BTN_TOUCH := by
  cases touch <;> cases b <;> decide

theorem legal_buttonWrites {d : Device} (mode : d.touch = istouch) (b : Button) (position down : Bool)
    (x y : Int32) : Legal (modeBits istouch) (buttonWrites d b position down x y) := by
  obtain ⟨below, own⟩ := buttonCode_own istouch b
  have key : Legal (modeBits istouch) [⟨EV_KEY, b.code d.touch, keyValue down⟩, sync] := by
    rw [mode]
    exact legal_key below own
  unfold buttonWrites
  split
  · split
    · exact key.abs x y
    · exact key
  · split
    · exact legal_sync.abs x y
    · exact legal_nil

theorem legal_wheelWrites (buttonMask : Int32) : Legal (modeBits istouch) (wheelWrites buttonMask) := by
  have turn : ∀ value, Legal (modeBits istouch) [⟨EV_REL, REL_WHEEL, value⟩, sync] := fun value =>
    legal_sync.cons (enabled_rel (by decide)) rfl
  unfold wheelWrites
  apply Legal.append <;> split
  · exact turn 1
  · exact legal_nil
  · exact turn (-1)
  · exact legal_nil

theorem legal_pointerWrites {d : Device} (mode : d.touch = istouch) (buttonMask x y : Int32) :
    Legal (modeBits istouch) (pointerWrites d buttonMask x y) := by
  have button := legal_buttonWrites mode
  have moved : Legal (modeBits istouch) (moveWrites d x y (x - d.mLastX) (y - d.mLastY)) :=
    legal_moveWrites x y _ _
  have left := moved.append (button .left true (Button.left.down buttonMask) x y)
  have right := left.append (button .right false (Button.right.down buttonMask) x y)
  have middle := right.append (button .middle false (Button.middle.down buttonMask) x y)
  exact middle.append (legal_wheelWrites buttonMask)

theorem legal_keyPath (keysym : UInt32) (down : Bool) :
    Legal (modeBits istouch) (eventsOf ((keyPath keysym).strokes down)) :=
  legal_flatMap _ fun stroke member =>
    legal_keyWrites (strokes_ofKeyboard keysym down stroke member).keyCode stroke.2

/-! ### Runs -/

/-- What stays during a run of calls on a started device. -/
structure Mode (istouch : Bool) (d : Device) : Prop where
  opened : d.mOpened = true
  touch : d.touch = istouch
  enabled : d.kernel.enabled = modeBits istouch

def CallLegal (sys : Sys) (d : Device) (call : Call) : Prop :=
  Legal d.kernel.enabled (written d (callStep sys d call))

variable {sys : Sys} {d : Device}

/-- A call keeps the mode and writes a legal stream. -/
theorem callStep_legal (succeed : sys.WritesSucceed) (mode : Mode istouch d) (call : Call) :
    Mode istouch (callStep sys d call) ∧ ∃ events, Legal (modeBits istouch) events ∧
      (callStep sys d call).stream = d.stream ++ events := by
  obtain ⟨opened, touch, enabled⟩ := mode
  cases call with
  | pointer buttonMask x y =>
    rw [callStep, pointerEvent_emit succeed buttonMask x y d opened]
    exact ⟨⟨opened, touch, enabled⟩, _, legal_pointerWrites touch buttonMask x y, stream_emit _ _⟩
  | key down keysym =>
    rw [callStep, keyEvent_emit succeed down keysym d opened]
    exact ⟨⟨opened, touch, enabled⟩, _, legal_keyPath keysym down, stream_emit _ _⟩

theorem run_legal (succeed : sys.WritesSucceed) (mode : Mode istouch d) (run : List Call) :
    ∃ events, Legal (modeBits istouch) events ∧ (run.foldl (callStep sys) d).stream = d.stream ++ events := by
  induction run generalizing d with
  | nil => exact ⟨[], legal_nil, (List.append_nil _).symm⟩
  | cons call rest ih =>
    obtain ⟨mode', events, legal, first⟩ := callStep_legal succeed mode call
    obtain ⟨later, legal', second⟩ := ih mode'
    refine ⟨events ++ later, legal.append legal', ?_⟩
    rw [List.foldl_cons, second, first, List.append_assoc]

theorem written_legal {d' : Device} (mode : Mode istouch d)
    (wrote : ∃ events, Legal (modeBits istouch) events ∧ d'.stream = d.stream ++ events) :
    Legal d.kernel.enabled (written d d') := by
  obtain ⟨events, legal, stream⟩ := wrote
  rw [mode.enabled, written, stream, List.drop_left]
  exact legal

/-- The bits of the mode are enabled, the stream of the whole run is legal for them, and so is that
of each call. -/
theorem stream_legal (succeed : sys.WritesSucceed) {width height : UInt32} {istouch relative : Bool}
    {d₀ : Device} (started : start sys width height istouch relative d₀ = (.ok, d)) (run : List Call) :
    d.kernel.enabled = modeBits istouch ∧
      Legal d.kernel.enabled (written d (run.foldl (callStep sys) d)) ∧
      Runs.Along (callStep sys) (CallLegal sys) d run := by
  have fresh := start_ok started
  have mode : Mode istouch d := ⟨fresh.opened, fresh.touch, start_enabled started⟩
  refine ⟨mode.enabled, written_legal mode (run_legal succeed mode run), ?_⟩
  apply Runs.along_of_invariant mode
  intro d call _ mode
  obtain ⟨mode', wrote⟩ := callStep_legal succeed mode call
  exact ⟨written_legal mode wrote, mode'⟩

def clickAndType : List Call := [.pointer 1 10 20, .key true XK_Agrave, .pointer 12 11 21, .pointer 0 11 21]

theorem stream_legal_click :
    (freshDevice 1080 1920 false true).kernel.enabled = modeBits false ∧
      Legal (freshDevice 1080 1920 false true).kernel.enabled
        (written (freshDevice 1080 1920 false true)
          (clickAndType.foldl (callStep .succeeding) (freshDevice 1080 1920 false true))) ∧
      Runs.Along (callStep .succeeding) (CallLegal .succeeding) (freshDevice 1080 1920 false true) clickAndType :=
  stream_legal (fun _ => rfl) (start_fresh 1080 1920 false true) clickAndType

end VncFlinger.Input
