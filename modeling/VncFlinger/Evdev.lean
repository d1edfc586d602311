import VncFlinger.Library.Strokes

/-!
# Linux input events

The event codes of `linux/input.h` and `linux/uinput.h` that the input device uses, and the two
readers of an event stream: the keys it leaves held, and the pointer position it reports.
-/

namespace VncFlinger.Evdev

structure InputEvent where
  type : UInt16
  code : UInt16
  value : Int32
  deriving DecidableEq, Repr

abbrev EV_SYN : UInt16 := 0x00
abbrev EV_KEY : UInt16 := 0x01
abbrev EV_REL : UInt16 := 0x02
abbrev EV_ABS : UInt16 := 0x03
abbrev EV_REP : UInt16 := 0x14
abbrev SYN_REPORT : UInt16 := 0
abbrev REL_X : UInt16 := 0x00
abbrev REL_Y : UInt16 := 0x01
abbrev REL_WHEEL : UInt16 := 0x08
abbrev ABS_X : UInt16 := 0x00
abbrev ABS_Y : UInt16 := 0x01
abbrev INPUT_PROP_DIRECT : UInt16 := 0x01

abbrev KEY_ESC : UInt16 := 1
abbrev KEY_1 : UInt16 := 2
abbrev KEY_2 : UInt16 := 3
abbrev KEY_3 : UInt16 := 4
abbrev KEY_4 : UInt16 := 5
abbrev KEY_5 : UInt16 := 6
abbrev KEY_6 : UInt16 := 7
abbrev KEY_7 : UInt16 := 8
abbrev KEY_8 : UInt16 := 9
abbrev KEY_9 : UInt16 := 10
abbrev KEY_0 : UInt16 := 11
abbrev KEY_MINUS : UInt16 := 12
abbrev KEY_EQUAL : UInt16 := 13
abbrev KEY_BACKSPACE : UInt16 := 14
abbrev KEY_TAB : UInt16 := 15
abbrev KEY_E : UInt16 := 18
abbrev KEY_U : UInt16 := 22
abbrev KEY_I : UInt16 := 23
abbrev KEY_LEFTBRACE : UInt16 := 26
abbrev KEY_RIGHTBRACE : UInt16 := 27
abbrev KEY_ENTER : UInt16 := 28
abbrev KEY_LEFTCTRL : UInt16 := 29
abbrev KEY_A : UInt16 := 30
abbrev KEY_S : UInt16 := 31
abbrev KEY_SEMICOLON : UInt16 := 39
abbrev KEY_APOSTROPHE : UInt16 := 40
abbrev KEY_GRAVE : UInt16 := 41
abbrev KEY_LEFTSHIFT : UInt16 := 42
abbrev KEY_BACKSLASH : UInt16 := 43
abbrev KEY_C : UInt16 := 46
abbrev KEY_N : UInt16 := 49
abbrev KEY_COMMA : UInt16 := 51
abbrev KEY_DOT : UInt16 := 52
abbrev KEY_SLASH : UInt16 := 53
abbrev KEY_RIGHTSHIFT : UInt16 := 54
abbrev KEY_KPASTERISK : UInt16 := 55
abbrev KEY_LEFTALT : UInt16 := 56
abbrev KEY_SPACE : UInt16 := 57
abbrev KEY_F1 : UInt16 := 59
abbrev KEY_F2 : UInt16 := 60
abbrev KEY_F3 : UInt16 := 61
abbrev KEY_F4 : UInt16 := 62
abbrev KEY_F5 : UInt16 := 63
abbrev KEY_F6 : UInt16 := 64
abbrev KEY_F7 : UInt16 := 65
abbrev KEY_F8 : UInt16 := 66
abbrev KEY_F9 : UInt16 := 67
abbrev KEY_F10 : UInt16 := 68
abbrev KEY_KP7 : UInt16 := 71
abbrev KEY_KP8 : UInt16 := 72
abbrev KEY_KP9 : UInt16 := 73
abbrev KEY_KPMINUS : UInt16 := 74
abbrev KEY_KP4 : UInt16 := 75
abbrev KEY_KP5 : UInt16 := 76
abbrev KEY_KP6 : UInt16 := 77
abbrev KEY_KPPLUS : UInt16 := 78
abbrev KEY_KP1 : UInt16 := 79
abbrev KEY_KP2 : UInt16 := 80
abbrev KEY_KP3 : UInt16 := 81
abbrev KEY_KP0 : UInt16 := 82
abbrev KEY_KPDOT : UInt16 := 83
abbrev KEY_F11 : UInt16 := 87
abbrev KEY_F12 : UInt16 := 88
abbrev KEY_KPENTER : UInt16 := 96
abbrev KEY_RIGHTCTRL : UInt16 := 97
abbrev KEY_KPSLASH : UInt16 := 98
abbrev KEY_RIGHTALT : UInt16 := 100
abbrev KEY_HOME : UInt16 := 102
abbrev KEY_UP : UInt16 := 103
abbrev KEY_PAGEUP : UInt16 := 104
abbrev KEY_LEFT : UInt16 := 105
abbrev KEY_RIGHT : UInt16 := 106
abbrev KEY_END : UInt16 := 107
abbrev KEY_DOWN : UInt16 := 108
abbrev KEY_PAGEDOWN : UInt16 := 109
abbrev KEY_INSERT : UInt16 := 110
abbrev KEY_DELETE : UInt16 := 111
abbrev KEY_PAUSE : UInt16 := 119
abbrev KEY_KPCOMMA : UInt16 := 121
abbrev KEY_F13 : UInt16 := 183
abbrev KEY_F14 : UInt16 := 184
abbrev KEY_F15 : UInt16 := 185
abbrev KEY_F16 : UInt16 := 186
abbrev KEY_F17 : UInt16 := 187
abbrev KEY_F18 : UInt16 := 188
abbrev KEY_F19 : UInt16 := 189
abbrev KEY_F20 : UInt16 := 190
abbrev KEY_F21 : UInt16 := 191
abbrev KEY_F22 : UInt16 := 192
abbrev KEY_F23 : UInt16 := 193
abbrev KEY_F24 : UInt16 := 194
abbrev BTN_MOUSE : UInt16 := 0x110
abbrev BTN_LEFT : UInt16 := 0x110
abbrev BTN_RIGHT : UInt16 := 0x111
abbrev BTN_MIDDLE : UInt16 := 0x112
abbrev BTN_TOUCH : UInt16 := 0x14a
abbrev KEY_NEXT : UInt16 := 0x197
abbrev KEY_MAX : Nat := 0x2ff

/-! ### Held keys -/

/-- The stroke an `EV_KEY` event makes: value 0 is a release. -/
def InputEvent.stroke (e : InputEvent) : Option (UInt16 × Bool) :=
  if e.type = EV_KEY then some (e.code, e.value != 0) else none

def strokes (events : List InputEvent) : List (UInt16 × Bool) := events.filterMap InputEvent.stroke

/-- The keys a stream leaves held, for a reader that starts with none held. -/
def held (events : List InputEvent) : Finset UInt16 := Strokes.replay ∅ (strokes events)

@[simp] theorem strokes_nil : strokes [] = [] := rfl

@[simp] theorem strokes_append (first second : List InputEvent) :
    strokes (first ++ second) = strokes first ++ strokes second := List.filterMap_append

theorem held_append (first second : List InputEvent) :
    held (first ++ second) = Strokes.replay (held first) (strokes second) := by
  rw [held, strokes_append, Strokes.replay_append, held]

/-! ### Pointer position -/

structure Position where
  x : Int
  y : Int
  deriving DecidableEq, Repr

/-- A reader sets its position on absolute events and moves it on relative ones. -/
def Position.read (p : Position) (e : InputEvent) : Position :=
  if e.type = EV_ABS then
    if e.code = ABS_X then { p with x := e.value.toInt }
    else if e.code = ABS_Y then { p with y := e.value.toInt }
    else p
  else if e.type = EV_REL then
    if e.code = REL_X then { p with x := p.x + e.value.toInt }
    else if e.code = REL_Y then { p with y := p.y + e.value.toInt }
    else p
  else p

def Position.follow (p : Position) (events : List InputEvent) : Position := events.foldl Position.read p

@[simp] theorem Position.follow_nil (p : Position) : p.follow [] = p := rfl

@[simp] theorem Position.follow_cons (p : Position) (e : InputEvent) (rest : List InputEvent) :
    p.follow (e :: rest) = (p.read e).follow rest := rfl

@[simp] theorem Position.follow_append (p : Position) (first second : List InputEvent) :
    p.follow (first ++ second) = (p.follow first).follow second := List.foldl_append

end VncFlinger.Evdev
