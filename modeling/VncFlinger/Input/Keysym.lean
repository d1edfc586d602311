/-!
# Keysyms

The keysyms of `keysymdef.h` that the translation tables of the input device name.
-/

namespace VncFlinger.Input

abbrev XK_space : UInt32 := 0x20
abbrev XK_exclam : UInt32 := 0x21
abbrev XK_quotedbl : UInt32 := 0x22
abbrev XK_numbersign : UInt32 := 0x23
abbrev XK_dollar : UInt32 := 0x24
abbrev XK_percent : UInt32 := 0x25
abbrev XK_ampersand : UInt32 := 0x26
abbrev XK_apostrophe : UInt32 := 0x27
abbrev XK_parenleft : UInt32 := 0x28
abbrev XK_parenright : UInt32 := 0x29
abbrev XK_asterisk : UInt32 := 0x2a
abbrev XK_plus : UInt32 := 0x2b
abbrev XK_comma : UInt32 := 0x2c
abbrev XK_minus : UInt32 := 0x2d
abbrev XK_period : UInt32 := 0x2e
abbrev XK_slash : UInt32 := 0x2f
abbrev XK_colon : UInt32 := 0x3a
abbrev XK_semicolon : UInt32 := 0x3b
abbrev XK_less : UInt32 := 0x3c
abbrev XK_equal : UInt32 := 0x3d
abbrev XK_greater : UInt32 := 0x3e
abbrev XK_question : UInt32 := 0x3f
abbrev XK_at : UInt32 := 0x40
abbrev XK_A : UInt32 := 0x41
abbrev XK_E : UInt32 := 0x45
abbrev XK_I : UInt32 := 0x49
abbrev XK_N : UInt32 := 0x4e
abbrev XK_O : UInt32 := 0x4f
abbrev XK_U : UInt32 := 0x55
abbrev XK_Y : UInt32 := 0x59
abbrev XK_bracketleft : UInt32 := 0x5b
abbrev XK_backslash : UInt32 := 0x5c
abbrev XK_bracketright : UInt32 := 0x5d
abbrev XK_asciicircum : UInt32 := 0x5e
abbrev XK_underscore : UInt32 := 0x5f
abbrev XK_grave : UInt32 := 0x60
abbrev XK_a : UInt32 := 0x61
abbrev XK_e : UInt32 := 0x65
abbrev XK_i : UInt32 := 0x69
abbrev XK_n : UInt32 := 0x6e
abbrev XK_o : UInt32 := 0x6f
abbrev XK_u : UInt32 := 0x75
abbrev XK_y : UInt32 := 0x79
abbrev XK_braceleft : UInt32 := 0x7b
abbrev XK_bar : UInt32 := 0x7c
abbrev XK_braceright : UInt32 := 0x7d
abbrev XK_asciitilde : UInt32 := 0x7e
abbrev XK_diaeresis : UInt32 := 0xa8
abbrev XK_acute : UInt32 := 0xb4
abbrev XK_masculine : UInt32 := 0xba
abbrev XK_Agrave : UInt32 := 0xc0
abbrev XK_Aacute : UInt32 := 0xc1
abbrev XK_Acircumflex : UInt32 := 0xc2
abbrev XK_Atilde : UInt32 := 0xc3
abbrev XK_Adiaeresis : UInt32 := 0xc4
abbrev XK_Aring : UInt32 := 0xc5
abbrev XK_Ccedilla : UInt32 := 0xc7
abbrev XK_Egrave : UInt32 := 0xc8
abbrev XK_Eacute : UInt32 := 0xc9
abbrev XK_Ecircumflex : UInt32 := 0xca
abbrev XK_Ediaeresis : UInt32 := 0xcb
abbrev XK_Igrave : UInt32 := 0xcc
abbrev XK_Iacute : UInt32 := 0xcd
abbrev XK_Icircumflex : UInt32 := 0xce
abbrev XK_Idiaeresis : UInt32 := 0xcf
abbrev XK_Ntilde : UInt32 := 0xd1
abbrev XK_Ograve : UInt32 := 0xd2
abbrev XK_Oacute : UInt32 := 0xd3
abbrev XK_Ocircumflex : UInt32 := 0xd4
abbrev XK_Otilde : UInt32 := 0xd5
abbrev XK_Odiaeresis : UInt32 := 0xd6
abbrev XK_Ugrave : UInt32 := 0xd9
abbrev XK_Uacute : UInt32 := 0xda
abbrev XK_Ucircumflex : UInt32 := 0xdb
abbrev XK_Udiaeresis : UInt32 := 0xdc
abbrev XK_Yacute : UInt32 := 0xdd
abbrev XK_agrave : UInt32 := 0xe0
abbrev XK_aacute : UInt32 := 0xe1
abbrev XK_acircumflex : UInt32 := 0xe2
abbrev XK_atilde : UInt32 := 0xe3
abbrev XK_adiaeresis : UInt32 := 0xe4
abbrev XK_aring : UInt32 := 0xe5
abbrev XK_ccedilla : UInt32 := 0xe7
abbrev XK_egrave : UInt32 := 0xe8
abbrev XK_eacute : UInt32 := 0xe9
abbrev XK_ecircumflex : UInt32 := 0xea
abbrev XK_ediaeresis : UInt32 := 0xeb
abbrev XK_igrave : UInt32 := 0xec
abbrev XK_iacute : UInt32 := 0xed
abbrev XK_icircumflex : UInt32 := 0xee
abbrev XK_idiaeresis : UInt32 := 0xef
abbrev XK_ntilde : UInt32 := 0xf1
abbrev XK_ograve : UInt32 := 0xf2
abbrev XK_oacute : UInt32 := 0xf3
abbrev XK_ocircumflex : UInt32 := 0xf4
abbrev XK_otilde : UInt32 := 0xf5
abbrev XK_odiaeresis : UInt32 := 0xf6
abbrev XK_ugrave : UInt32 := 0xf9
abbrev XK_uacute : UInt32 := 0xfa
abbrev XK_ucircumflex : UInt32 := 0xfb
abbrev XK_udiaeresis : UInt32 := 0xfc
abbrev XK_yacute : UInt32 := 0xfd
abbrev XK_ydiaeresis : UInt32 := 0xff
abbrev XK_EuroSign : UInt32 := 0x20ac
abbrev XK_BackSpace : UInt32 := 0xff08
abbrev XK_Tab : UInt32 := 0xff09
abbrev XK_Return : UInt32 := 0xff0d
abbrev XK_Pause : UInt32 := 0xff13
abbrev XK_Escape : UInt32 := 0xff1b
abbrev XK_Kanji : UInt32 := 0xff21
abbrev XK_Kana_Shift : UInt32 := 0xff2e
abbrev XK_Home : UInt32 := 0xff50
abbrev XK_Left : UInt32 := 0xff51
abbrev XK_Up : UInt32 := 0xff52
abbrev XK_Right : UInt32 := 0xff53
abbrev XK_Down : UInt32 := 0xff54
abbrev XK_Page_Up : UInt32 := 0xff55
abbrev XK_Page_Down : UInt32 := 0xff56
abbrev XK_End : UInt32 := 0xff57
abbrev XK_Insert : UInt32 := 0xff63
abbrev XK_Menu : UInt32 := 0xff67
abbrev XK_KP_Space : UInt32 := 0xff80
abbrev XK_KP_Tab : UInt32 := 0xff89
abbrev XK_KP_Enter : UInt32 := 0xff8d
abbrev XK_KP_F1 : UInt32 := 0xff91
abbrev XK_KP_F2 : UInt32 := 0xff92
abbrev XK_KP_F3 : UInt32 := 0xff93
abbrev XK_KP_F4 : UInt32 := 0xff94
abbrev XK_KP_Home : UInt32 := 0xff95
abbrev XK_KP_Left : UInt32 := 0xff96
abbrev XK_KP_Up : UInt32 := 0xff97
abbrev XK_KP_Right : UInt32 := 0xff98
abbrev XK_KP_Down : UInt32 := 0xff99
abbrev XK_KP_Page_Up : UInt32 := 0xff9a
abbrev XK_KP_Page_Down : UInt32 := 0xff9b
abbrev XK_KP_End : UInt32 := 0xff9c
abbrev XK_KP_Insert : UInt32 := 0xff9e
abbrev XK_KP_Delete : UInt32 := 0xff9f
abbrev XK_KP_Multiply : UInt32 := 0xffaa
abbrev XK_KP_Add : UInt32 := 0xffab
abbrev XK_KP_Separator : UInt32 := 0xffac
abbrev XK_KP_Subtract : UInt32 := 0xffad
abbrev XK_KP_Decimal : UInt32 := 0xffae
abbrev XK_KP_Divide : UInt32 := 0xffaf
abbrev XK_KP_0 : UInt32 := 0xffb0
abbrev XK_KP_1 : UInt32 := 0xffb1
abbrev XK_KP_2 : UInt32 := 0xffb2
abbrev XK_KP_3 : UInt32 := 0xffb3
abbrev XK_KP_4 : UInt32 := 0xffb4
abbrev XK_KP_5 : UInt32 := 0xffb5
abbrev XK_KP_6 : UInt32 := 0xffb6
abbrev XK_KP_7 : UInt32 := 0xffb7
abbrev XK_KP_8 : UInt32 := 0xffb8
abbrev XK_KP_9 : UInt32 := 0xffb9
abbrev XK_KP_Equal : UInt32 := 0xffbd
abbrev XK_F1 : UInt32 := 0xffbe
abbrev XK_F2 : UInt32 := 0xffbf
abbrev XK_F3 : UInt32 := 0xffc0
abbrev XK_F4 : UInt32 := 0xffc1
abbrev XK_F5 : UInt32 := 0xffc2
abbrev XK_F6 : UInt32 := 0xffc3
abbrev XK_F7 : UInt32 := 0xffc4
abbrev XK_F8 : UInt32 := 0xffc5
abbrev XK_F9 : UInt32 := 0xffc6
abbrev XK_F10 : UInt32 := 0xffc7
abbrev XK_F11 : UInt32 := 0xffc8
abbrev XK_F12 : UInt32 := 0xffc9
abbrev XK_F13 : UInt32 := 0xffca
abbrev XK_F14 : UInt32 := 0xffcb
abbrev XK_F15 : UInt32 := 0xffcc
abbrev XK_F16 : UInt32 := 0xffcd
abbrev XK_F17 : UInt32 := 0xffce
abbrev XK_F18 : UInt32 := 0xffcf
abbrev XK_F19 : UInt32 := 0xffd0
abbrev XK_F20 : UInt32 := 0xffd1
abbrev XK_F21 : UInt32 := 0xffd2
abbrev XK_F22 : UInt32 := 0xffd3
abbrev XK_F23 : UInt32 := 0xffd4
abbrev XK_F24 : UInt32 := 0xffd5
abbrev XK_Shift_L : UInt32 := 0xffe1
abbrev XK_Shift_R : UInt32 := 0xffe2
abbrev XK_Control_L : UInt32 := 0xffe3
abbrev XK_Control_R : UInt32 := 0xffe4
abbrev XK_Meta_L : UInt32 := 0xffe7
abbrev XK_Meta_R : UInt32 := 0xffe8
abbrev XK_Alt_L : UInt32 := 0xffe9
abbrev XK_Alt_R : UInt32 := 0xffea
abbrev XK_Super_L : UInt32 := 0xffeb
abbrev XK_Super_R : UInt32 := 0xffec
abbrev XK_Delete : UInt32 := 0xffff

end VncFlinger.Input
