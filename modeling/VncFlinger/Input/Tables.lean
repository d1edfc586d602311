import VncFlinger.Evdev
import VncFlinger.Input.Keysym

/-!
# Translation tables

The tables of `InputDevice.cpp` in source order: a keysym is looked up in each, and the first
entry that matches is used.
-/

namespace VncFlinger.Input
open Evdev

structure KeysymToAscii where
  keysym : UInt32
  ascii : UInt32
  deriving DecidableEq, Repr

def keysymToAscii : List KeysymToAscii :=
  [⟨XK_KP_Space, 0x20⟩, ⟨XK_KP_Equal, 0x3d⟩]

structure DeadCharsToAltChar where
  deadChar : UInt32
  altChar : UInt16
  deriving DecidableEq, Repr

def deadCharsToAltChar : List DeadCharsToAltChar :=
  [⟨XK_grave, KEY_GRAVE⟩, ⟨XK_acute, KEY_E⟩, ⟨XK_asciicircum, KEY_I⟩, ⟨XK_diaeresis, KEY_U⟩,
   ⟨XK_asciitilde, KEY_N⟩]

structure Latin1ToDeadChars where
  latin1Char : UInt32
  deadChar : UInt32
  baseChar : UInt32
  deriving DecidableEq, Repr

def latin1ToDeadChars : List Latin1ToDeadChars :=
  [⟨XK_Agrave, XK_grave, XK_A⟩, ⟨XK_Egrave, XK_grave, XK_E⟩, ⟨XK_Igrave, XK_grave, XK_I⟩,
   ⟨XK_Ograve, XK_grave, XK_O⟩, ⟨XK_Ugrave, XK_grave, XK_U⟩, ⟨XK_agrave, XK_grave, XK_a⟩,
   ⟨XK_egrave, XK_grave, XK_e⟩, ⟨XK_igrave, XK_grave, XK_i⟩, ⟨XK_ograve, XK_grave, XK_o⟩,
   ⟨XK_ugrave, XK_grave, XK_u⟩, ⟨XK_Aacute, XK_acute, XK_A⟩, ⟨XK_Eacute, XK_acute, XK_E⟩,
   ⟨XK_Iacute, XK_acute, XK_I⟩, ⟨XK_Oacute, XK_acute, XK_O⟩, ⟨XK_Uacute, XK_acute, XK_U⟩,
   ⟨XK_Yacute, XK_acute, XK_Y⟩, ⟨XK_aacute, XK_acute, XK_a⟩, ⟨XK_eacute, XK_acute, XK_e⟩,
   ⟨XK_iacute, XK_acute, XK_i⟩, ⟨XK_oacute, XK_acute, XK_o⟩, ⟨XK_uacute, XK_acute, XK_u⟩,
   ⟨XK_yacute, XK_acute, XK_y⟩, ⟨XK_Acircumflex, XK_asciicircum, XK_A⟩,
   ⟨XK_Ecircumflex, XK_asciicircum, XK_E⟩, ⟨XK_Icircumflex, XK_asciicircum, XK_I⟩,
   ⟨XK_Ocircumflex, XK_asciicircum, XK_O⟩, ⟨XK_Ucircumflex, XK_asciicircum, XK_U⟩,
   ⟨XK_acircumflex, XK_asciicircum, XK_a⟩, ⟨XK_ecircumflex, XK_asciicircum, XK_e⟩,
   ⟨XK_icircumflex, XK_asciicircum, XK_i⟩, ⟨XK_ocircumflex, XK_asciicircum, XK_o⟩,
   ⟨XK_ucircumflex, XK_asciicircum, XK_u⟩, ⟨XK_Adiaeresis, XK_diaeresis, XK_A⟩,
   ⟨XK_Ediaeresis, XK_diaeresis, XK_E⟩, ⟨XK_Idiaeresis, XK_diaeresis, XK_I⟩,
   ⟨XK_Odiaeresis, XK_diaeresis, XK_O⟩, ⟨XK_Udiaeresis, XK_diaeresis, XK_U⟩,
   ⟨XK_adiaeresis, XK_diaeresis, XK_a⟩, ⟨XK_ediaeresis, XK_diaeresis, XK_e⟩,
   ⟨XK_idiaeresis, XK_diaeresis, XK_i⟩, ⟨XK_odiaeresis, XK_diaeresis, XK_o⟩,
   ⟨XK_udiaeresis, XK_diaeresis, XK_u⟩, ⟨XK_ydiaeresis, XK_diaeresis, XK_y⟩,
   ⟨XK_Atilde, XK_asciitilde, XK_A⟩, ⟨XK_Ntilde, XK_asciitilde, XK_N⟩,
   ⟨XK_Otilde, XK_asciitilde, XK_O⟩, ⟨XK_atilde, XK_asciitilde, XK_a⟩,
   ⟨XK_ntilde, XK_asciitilde, XK_n⟩, ⟨XK_otilde, XK_asciitilde, XK_o⟩]

structure SpicialKeysymToDirectKey where
  keysym : UInt32
  directKey : UInt16
  deriving DecidableEq, Repr

def spicialKeysymToDirectKey : List SpicialKeysymToDirectKey :=
  [⟨XK_BackSpace, KEY_BACKSPACE⟩, ⟨XK_Tab, KEY_TAB⟩, ⟨XK_Return, KEY_ENTER⟩, ⟨XK_Pause, KEY_PAUSE⟩,
   ⟨XK_Escape, KEY_ESC⟩, ⟨XK_Delete, KEY_DELETE⟩, ⟨XK_Home, KEY_HOME⟩, ⟨XK_Left, KEY_LEFT⟩,
   ⟨XK_Up, KEY_UP⟩, ⟨XK_Right, KEY_RIGHT⟩, ⟨XK_Down, KEY_DOWN⟩, ⟨XK_Page_Up, KEY_PAGEUP⟩,
   ⟨XK_Page_Down, KEY_PAGEDOWN⟩, ⟨XK_End, KEY_END⟩, ⟨XK_Insert, KEY_INSERT⟩, ⟨XK_F1, KEY_F1⟩,
   ⟨XK_F2, KEY_F2⟩, ⟨XK_F3, KEY_F3⟩, ⟨XK_F4, KEY_F4⟩, ⟨XK_F5, KEY_F5⟩, ⟨XK_F6, KEY_F6⟩,
   ⟨XK_F7, KEY_F7⟩, ⟨XK_F8, KEY_F8⟩, ⟨XK_F9, KEY_F9⟩, ⟨XK_F10, KEY_F10⟩, ⟨XK_F11, KEY_F11⟩,
   ⟨XK_F12, KEY_F12⟩, ⟨XK_F13, KEY_F13⟩, ⟨XK_F14, KEY_F14⟩, ⟨XK_F15, KEY_F15⟩, ⟨XK_F16, KEY_F16⟩,
   ⟨XK_F17, KEY_F17⟩, ⟨XK_F18, KEY_F18⟩, ⟨XK_F19, KEY_F19⟩, ⟨XK_F20, KEY_F20⟩, ⟨XK_F21, KEY_F21⟩,
   ⟨XK_F22, KEY_F22⟩, ⟨XK_F23, KEY_F23⟩, ⟨XK_F24, KEY_F24⟩, ⟨XK_KP_Tab, KEY_TAB⟩,
   ⟨XK_KP_Enter, KEY_KPENTER⟩, ⟨XK_KP_F1, KEY_F1⟩, ⟨XK_KP_F2, KEY_F2⟩, ⟨XK_KP_F3, KEY_F3⟩,
   ⟨XK_KP_F4, KEY_F4⟩, ⟨XK_KP_Home, KEY_HOME⟩, ⟨XK_KP_Left, KEY_LEFT⟩, ⟨XK_KP_Up, KEY_UP⟩,
   ⟨XK_KP_Right, KEY_RIGHT⟩, ⟨XK_KP_Down, KEY_DOWN⟩, ⟨XK_KP_End, KEY_END⟩,
   ⟨XK_KP_Page_Up, KEY_PAGEUP⟩, ⟨XK_KP_Page_Down, KEY_NEXT⟩, ⟨XK_KP_Insert, KEY_INSERT⟩,
   ⟨XK_KP_Delete, KEY_DELETE⟩, ⟨XK_KP_Multiply, KEY_KPASTERISK⟩, ⟨XK_KP_Add, KEY_KPPLUS⟩,
   ⟨XK_KP_Separator, KEY_KPCOMMA⟩, ⟨XK_KP_Subtract, KEY_KPMINUS⟩, ⟨XK_KP_Decimal, KEY_KPDOT⟩,
   ⟨XK_KP_Divide, KEY_KPSLASH⟩, ⟨XK_KP_0, KEY_KP0⟩, ⟨XK_KP_1, KEY_KP1⟩, ⟨XK_KP_2, KEY_KP2⟩,
   ⟨XK_KP_3, KEY_KP3⟩, ⟨XK_KP_4, KEY_KP4⟩, ⟨XK_KP_5, KEY_KP5⟩, ⟨XK_KP_6, KEY_KP6⟩,
   ⟨XK_KP_7, KEY_KP7⟩, ⟨XK_KP_8, KEY_KP8⟩, ⟨XK_KP_9, KEY_KP9⟩, ⟨XK_Shift_L, KEY_LEFTSHIFT⟩,
   ⟨XK_Shift_R, KEY_RIGHTSHIFT⟩, ⟨XK_Control_L, KEY_LEFTCTRL⟩, ⟨XK_Control_R, KEY_RIGHTCTRL⟩,
   ⟨XK_Alt_L, KEY_LEFTALT⟩, ⟨XK_Alt_R, KEY_RIGHTALT⟩, ⟨XK_Meta_L, KEY_LEFTALT⟩,
   ⟨XK_Meta_R, KEY_RIGHTALT⟩, ⟨XK_Super_L, 0xDB⟩, ⟨XK_Super_R, 0xDC⟩, ⟨XK_Menu, 0xDD⟩,
   ⟨XK_Kanji, 0x94⟩, ⟨XK_Kana_Shift, 0x70⟩]

structure SymbolKeysymToDirectKey where
  keysym : UInt32
  directKey : UInt16
  needShift : Bool
  needAlt : Bool
  deriving DecidableEq, Repr

def symbolKeysymToDirectKey : List SymbolKeysymToDirectKey :=
  [⟨XK_space, KEY_SPACE, false, false⟩, ⟨XK_exclam, KEY_1, true, false⟩,
   ⟨XK_quotedbl, KEY_APOSTROPHE, true, false⟩, ⟨XK_numbersign, KEY_3, true, false⟩,
   ⟨XK_dollar, KEY_4, true, false⟩, ⟨XK_percent, KEY_5, true, false⟩,
   ⟨XK_ampersand, KEY_7, true, false⟩, ⟨XK_apostrophe, KEY_APOSTROPHE, false, false⟩,
   ⟨XK_parenleft, KEY_9, true, false⟩, ⟨XK_parenright, KEY_0, true, false⟩,
   ⟨XK_asterisk, KEY_8, true, false⟩, ⟨XK_plus, KEY_EQUAL, true, false⟩,
   ⟨XK_comma, KEY_COMMA, false, false⟩, ⟨XK_minus, KEY_MINUS, false, false⟩,
   ⟨XK_period, KEY_DOT, false, false⟩, ⟨XK_slash, KEY_SLASH, false, false⟩,
   ⟨XK_colon, KEY_SEMICOLON, true, false⟩, ⟨XK_semicolon, KEY_SEMICOLON, false, false⟩,
   ⟨XK_less, KEY_COMMA, true, false⟩, ⟨XK_equal, KEY_EQUAL, false, false⟩,
   ⟨XK_greater, KEY_DOT, true, false⟩, ⟨XK_question, KEY_SLASH, true, false⟩,
   ⟨XK_at, KEY_2, true, false⟩, ⟨XK_bracketleft, KEY_LEFTBRACE, false, false⟩,
   ⟨XK_backslash, KEY_BACKSLASH, false, false⟩, ⟨XK_bracketright, KEY_RIGHTBRACE, false, false⟩,
   ⟨XK_asciicircum, KEY_6, true, false⟩, ⟨XK_underscore, KEY_MINUS, true, false⟩,
   ⟨XK_grave, KEY_GRAVE, false, false⟩, ⟨XK_braceleft, KEY_LEFTBRACE, true, false⟩,
   ⟨XK_bar, KEY_BACKSLASH, true, false⟩, ⟨XK_braceright, KEY_RIGHTBRACE, true, false⟩,
   ⟨XK_asciitilde, KEY_GRAVE, true, false⟩, ⟨XK_Aring, KEY_A, true, true⟩,
   ⟨XK_aring, KEY_A, false, true⟩, ⟨XK_Ccedilla, KEY_C, true, true⟩,
   ⟨XK_ccedilla, KEY_C, false, true⟩, ⟨XK_EuroSign, KEY_2, true, true⟩,
   ⟨XK_masculine, KEY_0, false, true⟩, ⟨163, KEY_3, false, true⟩, ⟨223, KEY_S, false, true⟩,
   ⟨167, KEY_6, false, true⟩]

/-- The scan codes of the letters in alphabetical order. -/
def qwerty : List UInt16 :=
  [30, 48, 46, 32, 18, 33, 34, 35, 23, 36, 37, 38, 50, 49, 24, 25, 16, 19, 31, 20, 22, 47, 17, 45, 21, 44]

end VncFlinger.Input
