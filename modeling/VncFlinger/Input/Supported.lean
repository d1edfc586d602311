import VncFlinger.Input.Shift

/-!
# The keysyms a key event answers for

The tables name keysyms of at most 16 bits, and a keysym that none of them names goes on to a test
of its low 16 bits alone. So the input device types for keysyms nobody meant: those that end
like a letter or a digit.
-/

namespace VncFlinger.Input
open Evdev

def Tabled (keysym : UInt32) : Prop :=
  (∃ entry ∈ latin1ToDeadChars, entry.latin1Char = keysym) ∨
    (∃ entry ∈ spicialKeysymToDirectKey, entry.keysym = keysym) ∨
      ∃ entry ∈ symbolKeysymToDirectKey, entry.keysym = keysym

def LetterOrDigit (keysym : UInt32) : Prop := capital keysym ∨ plain keysym

instance (keysym : UInt32) : Decidable (LetterOrDigit keysym) := inferInstanceAs (Decidable (_ ∨ _))

/-- What the key tables and the range test are for. -/
def Supported (keysym : UInt32) : Prop := Tabled (fixUnknown keysym) ∨ LetterOrDigit (fixUnknown keysym)

instance (keysym : UInt32) : Decidable (Tabled keysym) :=
  inferInstanceAs (Decidable ((∃ entry ∈ latin1ToDeadChars, _) ∨ (∃ entry ∈ spicialKeysymToDirectKey, _) ∨
    ∃ entry ∈ symbolKeysymToDirectKey, _))

instance (keysym : UInt32) : Decidable (Supported keysym) := inferInstanceAs (Decidable (_ ∨ _))

/-- The key changes handed to `write` between two states are these, and without one there is no
write at all. Whether a write succeeds is left open. -/
def Struck (l : List (UInt16 × Bool)) (before after : Device) : Prop :=
  ∃ writes, after.kernel.writes = before.kernel.writes ++ writes ∧ strokes (writes.map (·.event)) = l ∧
    (l = [] → writes = [])

/-- The call hands a key event to `write` exactly for a supported keysym, and nothing for another. -/
def Answers (sys : Sys) (down : Bool) (d : Device) (keysym : UInt32) : Prop :=
  ∃ writes, (keyEvent sys down keysym d).2.kernel.writes = d.kernel.writes ++ writes ∧
    ((∃ w ∈ writes, w.event.type = EV_KEY) ↔ Supported keysym) ∧ (¬ Supported keysym → writes = [])

/-! ### Every stroke of the path is written -/

theorem Struck.refl (d : Device) : Struck [] d d := ⟨[], by simp, rfl, fun _ => rfl⟩

theorem Struck.trans {first second : List (UInt16 × Bool)} {d d' d'' : Device} (one : Struck first d d')
    (two : Struck second d' d'') : Struck (first ++ second) d d'' := by
  obtain ⟨earlier, wrote, here, quiet⟩ := one
  obtain ⟨later, wrote', there, quiet'⟩ := two
  refine ⟨earlier ++ later, ?_, ?_, ?_⟩
  · rw [wrote', wrote, List.append_assoc]
  · rw [List.map_append, strokes_append, here, there]
  · intro none
    obtain ⟨noFirst, noSecond⟩ := List.append_eq_nil_iff.mp none
    rw [quiet noFirst, quiet' noSecond, List.append_nil]

variable {sys : Sys}

theorem Struck.of_key {d d' : Device} {before key : Write} {later : List Write} {code : UInt16} {down : Bool}
    (wrote : d'.kernel.writes = d.kernel.writes ++ before :: key :: later)
    (first : before.event.stroke = none) (second : key.event.stroke = some (code, down))
    (rest : strokes (later.map (·.event)) = []) : Struck [(code, down)] d d' := by
  refine ⟨_, wrote, ?_, by simp⟩
  unfold strokes at rest ⊢
  rw [List.map_cons, List.filterMap_cons_none first, List.map_cons, List.filterMap_cons_some second, rest]

theorem struck_doKeyboardEvent (code : UInt16) (down : Bool) (d : Device) :
    Struck [(code, down)] d (doKeyboardEvent sys code down d).2 := by
  let report (n : Nat) : Write := ⟨d.mFD, ⟨EV_SYN, SYN_REPORT, 0⟩, sys.writeOk (d.kernel.calls + n)⟩
  let key : Write := ⟨d.mFD, ⟨EV_KEY, code, if down then 1 else 0⟩, sys.writeOk (d.kernel.calls + 1)⟩
  have change : key.event.stroke = some (code, down) := by cases down <;> rfl
  have wrote : (doKeyboardEvent sys code down d).2.kernel.writes =
      d.kernel.writes ++ report 0 :: key :: (if key.ok then [report 2] else []) := by
    cases down <;> cases ok : sys.writeOk (d.kernel.calls + 1) <;>
      simp [doKeyboardEvent, press, release, inject, tick, report, key, ok]
  refine .of_key wrote rfl change ?_
  split <;> rfl

theorem struck_doBasicKeyEvent (code : UInt16) (down : Bool) (d : Device) :
    Struck (basicStrokes code down) d (doBasicKeyEvent sys code down d).2 := by
  unfold doBasicKeyEvent basicStrokes
  by_cases unknown : (basicKey code).2 = 0
  · simp only [unknown, if_true]
    exact .refl d
  · simp only [unknown, if_false]
    cases (basicKey code).1 with
    | false => exact struck_doKeyboardEvent _ _ _
    | true => exact (struck_doKeyboardEvent _ _ _).trans (struck_doKeyboardEvent _ _ _)

/-- However the writes end, `keyEvent` on an open device tries the strokes of the keysym's path. -/
theorem struck_keyEvent (down : Bool) (keysym : UInt32) {d : Device} (opened : d.mOpened = true) :
    Struck ((keyPath keysym).strokes down) d (keyEvent sys down keysym d).2 := by
  have key := @struck_doKeyboardEvent sys
  have basic := @struck_doBasicKeyEvent sys
  unfold keyEvent keyPath
  simp only [bind_apply, get_apply, opened]
  cases latinKey (fixUnknown keysym) with
  | some pair =>
    cases down with
    | false => exact basic _ _ _
    | true => exact (key _ _ _).trans ((key _ _ _).trans ((key _ _ _).trans ((key _ _ _).trans (basic _ _ _))))
  | none =>
    cases spicialKeysymToDirectKey.find? (·.keysym == fixUnknown keysym) with
    | some entry => exact key _ _ _
    | none =>
      cases symbolKeysymToDirectKey.find? (·.keysym == fixUnknown keysym) with
      | some entry =>
        cases down with
        | false => exact key _ _ _
        | true => exact (key _ _ _).trans ((key _ _ _).trans ((key _ _ _).trans ((key _ _ _).trans (key _ _ _))))
      | none => exact basic _ _ _

theorem key_written_iff (writes : List Write) :
    (∃ w ∈ writes, w.event.type = EV_KEY) ↔ strokes (writes.map (·.event)) ≠ [] := by
  have stroke (e : InputEvent) : e.stroke = none ↔ ¬ e.type = EV_KEY := by
    unfold InputEvent.stroke
    split <;> simp [*]
  unfold strokes
  rw [Ne, List.filterMap_eq_nil_iff, List.forall_mem_map]
  simp only [stroke, not_forall, not_not, exists_prop]

/-! ### Which paths have a stroke -/

theorem qwerty_known (n : ℕ) : qwerty.getD n 0 ≠ 0 ↔ n < 26 := by
  have length : qwerty.length = 26 := rfl
  have entries : qwerty.all (· != 0) = true := by decide
  rw [List.getD_eq_getElem?_getD, ← length]
  constructor
  · intro known
    by_contra beyond
    rw [List.getElem?_eq_none (Nat.not_lt.mp beyond)] at known
    exact known rfl
  · intro within
    rw [List.getElem?_eq_getElem within]
    simpa using List.all_eq_true.mp entries _ (List.getElem_mem within)

theorem qwerty_letter {code first : UInt16} (le : first ≤ code) :
    qwerty.getD (code - first).toNat 0 ≠ 0 ↔ code.toNat < first.toNat + 26 := by
  rw [qwerty_known, UInt16.toNat_sub_of_le code first le]
  have below := UInt16.le_iff_toNat_le.mp le
  omega

theorem basicKey_known (code : UInt16) : (basicKey code).2 ≠ 0 ↔ LetterOrDigit code.toUInt32 := by
  unfold basicKey
  split
  case isTrue lower =>
    rw [qwerty_letter lower.1]
    simp only [LetterOrDigit, capital, plain, UInt32.le_iff_toNat_le, UInt16.le_iff_toNat_le] at lower ⊢
    simp at lower ⊢
    omega
  split
  case isTrue upper =>
    rw [qwerty_letter upper.1]
    simp only [LetterOrDigit, capital, plain, UInt32.le_iff_toNat_le, UInt16.le_iff_toNat_le] at upper ⊢
    simp at upper ⊢
    omega
  split
  case isTrue digit =>
    have scan : (code - 0x31 + 2).toNat = code.toNat - 49 + 2 := by
      rw [UInt16.toNat_add, UInt16.toNat_sub_of_le code _ digit.1]
      have bound := code.toNat_lt
      exact Nat.mod_eq_of_lt (by simp; omega)
    have known : code - 0x31 + 2 ≠ 0 := fun zero => by simp [zero] at scan
    simp only [LetterOrDigit, capital, plain, UInt32.le_iff_toNat_le, UInt16.le_iff_toNat_le] at digit ⊢
    simp [known] at digit ⊢
    omega
  split
  case isTrue zero =>
    subst zero
    decide
  case isFalse lower upper digit zero =>
    have notZero : code.toNat ≠ 48 := fun same => zero (UInt16.toNat_inj.mp same)
    simp only [LetterOrDigit, capital, plain, UInt32.le_iff_toNat_le, UInt16.le_iff_toNat_le]
      at lower upper digit ⊢
    simp at lower upper digit ⊢
    omega

theorem basicStrokes_ne_nil (code : UInt16) (down : Bool) :
    basicStrokes code down ≠ [] ↔ LetterOrDigit code.toUInt32 := by
  rw [← basicKey_known, basicStrokes]
  split
  case isTrue unknown => simp [unknown]
  case isFalse known => simp [known]

theorem latin_entries : ∀ entry ∈ latin1ToDeadChars,
    (deadCharsToAltChar.find? (entry.deadChar == ·.deadChar)).isSome = true ∧
      LetterOrDigit entry.baseChar.toUInt16.toUInt32 := by
  decide +kernel

theorem latinKey_isSome (k : UInt32) :
    (latinKey k).isSome = true ↔ ∃ entry ∈ latin1ToDeadChars, entry.latin1Char = k := by
  unfold latinKey
  rw [List.findSome?_isSome_iff]
  constructor
  · rintro ⟨entry, member, found⟩
    refine ⟨entry, member, ?_⟩
    by_contra other
    simp [Ne.symm other] at found
  · rintro ⟨entry, member, rfl⟩
    refine ⟨entry, member, ?_⟩
    simpa using (latin_entries entry member).1

theorem lookup_isSome {α : Type} (key : α → UInt32) (table : List α) (k : UInt32) :
    (table.find? (key · == k)).isSome = true ↔ ∃ entry ∈ table, key entry = k := by
  simp [List.find?_isSome]

/-- A keysym's path has a stroke if a table names the keysym, or if its low 16 bits pass the range test. -/
theorem strokes_ne_nil_iff (keysym : UInt32) (down : Bool) : (keyPath keysym).strokes down ≠ [] ↔
    Tabled (fixUnknown keysym) ∨ LetterOrDigit (fixUnknown keysym).toUInt16.toUInt32 := by
  unfold keyPath Tabled
  have latin := latinKey_isSome (fixUnknown keysym)
  cases found : latinKey (fixUnknown keysym) with
  | some pair =>
    rw [found] at latin
    have base := (latin_entries _ (latinKey_mem found).1).2
    have strokes := (basicStrokes_ne_nil pair.1.baseChar.toUInt16 down).mpr base
    simp [KeyPath.strokes, strokes, latin.mp rfl]
  | none =>
    have noLatin : ¬ ∃ entry ∈ latin1ToDeadChars, entry.latin1Char = fixUnknown keysym := by
      rw [← latin, found]
      simp
    have special := lookup_isSome (·.keysym) spicialKeysymToDirectKey (fixUnknown keysym)
    have symbol := lookup_isSome (·.keysym) symbolKeysymToDirectKey (fixUnknown keysym)
    dsimp only
    cases directly : spicialKeysymToDirectKey.find? (·.keysym == fixUnknown keysym) with
    | some entry =>
      rw [directly] at special
      simp [KeyPath.strokes, special.mp rfl]
    | none =>
      rw [directly] at special
      have noSpecial := mt special.mpr (by simp)
      cases shifted : symbolKeysymToDirectKey.find? (·.keysym == fixUnknown keysym) with
      | some entry =>
        rw [shifted] at symbol
        simp [KeyPath.strokes, symbol.mp rfl]
      | none =>
        rw [shifted] at symbol
        have noSymbol := mt symbol.mpr (by simp)
        simp only [noLatin, noSpecial, noSymbol, false_or]
        exact basicStrokes_ne_nil _ down

/-! ### The exact condition -/

theorem tabled_narrow {k : UInt32} (tabled : Tabled k) : k.toNat < 0x10000 := by
  have latin : latin1ToDeadChars.all (fun entry => entry.latin1Char.toNat < 0x10000) = true := by decide +kernel
  have special : spicialKeysymToDirectKey.all (fun entry => entry.keysym.toNat < 0x10000) = true := by
    decide +kernel
  have symbol : symbolKeysymToDirectKey.all (fun entry => entry.keysym.toNat < 0x10000) = true := by
    decide +kernel
  rcases tabled with ⟨entry, member, rfl⟩ | ⟨entry, member, rfl⟩ | ⟨entry, member, rfl⟩
  · exact of_decide_eq_true (List.all_eq_true.mp latin entry member)
  · exact of_decide_eq_true (List.all_eq_true.mp special entry member)
  · exact of_decide_eq_true (List.all_eq_true.mp symbol entry member)

theorem letterOrDigit_narrow {k : UInt32} (ascii : LetterOrDigit k) : k.toNat < 0x10000 := by
  simp only [LetterOrDigit, capital, plain, UInt32.le_iff_toNat_le] at ascii
  simp at ascii
  omega

theorem fixUnknown_narrow {keysym : UInt32} (narrow : keysym.toNat < 0x10000) :
    (fixUnknown keysym).toNat < 0x10000 := by
  have ascii : keysymToAscii.all (fun entry => entry.ascii.toNat < 0x10000) = true := by decide +kernel
  unfold fixUnknown
  cases found : keysymToAscii.find? (·.keysym == keysym) with
  | some entry => exact of_decide_eq_true (List.all_eq_true.mp ascii entry (List.mem_of_find?_eq_some found))
  | none => exact narrow

theorem fixUnknown_wide {keysym : UInt32} (wide : ¬ keysym.toNat < 0x10000) : fixUnknown keysym = keysym := by
  have keypad : keysymToAscii.all (fun entry => entry.keysym.toNat < 0x10000) = true := by decide +kernel
  unfold fixUnknown
  cases found : keysymToAscii.find? (·.keysym == keysym) with
  | some entry =>
    have named : entry.keysym = keysym := by simpa using List.find?_some found
    have narrow := of_decide_eq_true (List.all_eq_true.mp keypad entry (List.mem_of_find?_eq_some found))
    exact absurd (named ▸ narrow) wide
  | none => rfl

theorem narrow_iff {keysym : UInt32} : keysym.toUInt16.toUInt32 = keysym ↔ keysym.toNat < 0x10000 := by
  rw [← UInt32.toNat_inj]
  simp

/-- A keysym of 16 bits is answered for as it should be. A wider one should write nothing, and does so
unless its low half is a letter or a digit. -/
theorem answers_iff (sys : Sys) (down : Bool) {d : Device} (opened : d.mOpened = true) (keysym : UInt32) :
    Answers sys down d keysym ↔
      (keysym.toUInt16.toUInt32 = keysym ∨ ¬ LetterOrDigit keysym.toUInt16.toUInt32) := by
  obtain ⟨writes, wrote, struck, quiet⟩ := @struck_keyEvent sys down keysym d opened
  have keys : (∃ w ∈ writes, w.event.type = EV_KEY) ↔
      Tabled (fixUnknown keysym) ∨ LetterOrDigit (fixUnknown keysym).toUInt16.toUInt32 := by
    rw [key_written_iff, struck, strokes_ne_nil_iff]
  have only : Answers sys down d keysym ↔
      ((∃ w ∈ writes, w.event.type = EV_KEY) ↔ Supported keysym) ∧ (¬ Supported keysym → writes = []) := by
    constructor
    · rintro ⟨writes', wrote', answers⟩
      rw [List.append_cancel_left (wrote.symm.trans wrote')]
      exact answers
    · exact fun answers => ⟨writes, wrote, answers⟩
  have silent : ¬ Supported keysym → ((∃ w ∈ writes, w.event.type = EV_KEY) ↔ Supported keysym) →
      writes = [] := by
    intro unsupported right
    refine quiet (not_not.mp fun stroke => unsupported (right.mp ?_))
    rw [key_written_iff, struck]
    exact stroke
  rw [only, and_iff_left_of_imp fun right unsupported => silent unsupported right, keys]
  by_cases narrow : keysym.toNat < 0x10000
  · have same := narrow_iff.mpr (fixUnknown_narrow narrow)
    rw [same]
    exact iff_of_true Iff.rfl (Or.inl (narrow_iff.mpr narrow))
  · have unsupported : ¬ Supported keysym := by
      rintro (tabled | ascii)
      · exact narrow (fixUnknown_wide narrow ▸ tabled_narrow tabled)
      · exact narrow (fixUnknown_wide narrow ▸ letterOrDigit_narrow ascii)
    have untabled : ¬ Tabled (fixUnknown keysym) := fun tabled => unsupported (Or.inl tabled)
    rw [fixUnknown_wide narrow] at untabled ⊢
    simp only [narrow_iff, narrow, untabled, unsupported, false_or, iff_false]

theorem answers_iff_keypad : Answers .succeeding true (.opened false false) XK_KP_Equal :=
  (answers_iff .succeeding true rfl XK_KP_Equal).mpr (by decide)

/-- The keysym that X gives to U+20061. Its low half is the code of `a`. -/
def stray : UInt32 := 0x01020061

theorem stray_keysym_typed : ¬ Supported stray ∧
    (keyEvent .succeeding true stray (.opened false false)).2.stream = keyWrites KEY_A true ∧
    ¬ Answers .succeeding true (.opened false false) stray := by
  have unsupported : ¬ Supported stray := by decide +kernel
  refine ⟨unsupported, by decide +kernel, ?_⟩
  rintro ⟨writes, wrote, -, silent⟩
  rw [silent unsupported] at wrote
  exact absurd wrote (by decide +kernel)

end VncFlinger.Input
