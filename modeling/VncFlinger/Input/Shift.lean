import Mathlib.Data.List.Basic
import VncFlinger.Input.HeldKeys
import VncFlinger.Library.Runs

/-!
# Shift at the press of a character

Letters, digits and symbols set Shift by three rules: a capital presses the left Shift, a symbol
sets the left Shift to what its entry says, a lower-case letter or digit leaves Shift alone. What
the reader sees at the press is therefore right exactly when `ShiftFits`.
-/

namespace VncFlinger.Input
open Evdev

def capital (keysym : UInt32) : Prop := 0x41 ≤ keysym ∧ keysym ≤ 0x5a

def plain (keysym : UInt32) : Prop :=
  0x61 ≤ keysym ∧ keysym ≤ 0x7a ∨ 0x30 ≤ keysym ∧ keysym ≤ 0x39

instance (keysym : UInt32) : Decidable (capital keysym) := inferInstanceAs (Decidable (_ ∧ _))

instance (keysym : UInt32) : Decidable (plain keysym) := inferInstanceAs (Decidable (_ ∨ _))

def IsSymbol (keysym : UInt32) : Prop := ∃ entry ∈ symbolKeysymToDirectKey, entry.keysym = fixUnknown keysym

/-- The keysyms that stand for one character of a plain keyboard. -/
def Typed (keysym : UInt32) : Prop :=
  capital (fixUnknown keysym) ∨ plain (fixUnknown keysym) ∨ IsSymbol keysym

def NeedsShift (keysym : UInt32) : Prop :=
  capital (fixUnknown keysym) ∨
    ∃ entry ∈ symbolKeysymToDirectKey, entry.keysym = fixUnknown keysym ∧ entry.needShift = true

instance (keysym : UInt32) : Decidable (Typed keysym) :=
  inferInstanceAs (Decidable (_ ∨ _ ∨ ∃ entry ∈ symbolKeysymToDirectKey, _))

instance (keysym : UInt32) : Decidable (NeedsShift keysym) :=
  inferInstanceAs (Decidable (_ ∨ ∃ entry ∈ symbolKeysymToDirectKey, _))

def ShiftHeld (keys : Finset UInt16) : Prop := KEY_LEFTSHIFT ∈ keys ∨ KEY_RIGHTSHIFT ∈ keys

/-- When the press of a keysym writes its own scan code, the reader has a Shift held if and only
if the keysym needs it. -/
def ShiftMatches (sys : Sys) (d : Device) (keysym : UInt32) : Prop :=
  ∀ scan ∈ (keyPath keysym).scanCode, ∀ earlier later,
    (keyEvent sys true keysym d).2.stream = d.stream ++ (earlier ++ ⟨EV_KEY, scan, 1⟩ :: later) →
    (ShiftHeld (held (d.stream ++ (earlier ++ [⟨EV_KEY, scan, 1⟩]))) ↔ NeedsShift keysym)

/-- The keysym needs Shift, or no Shift is held that its path leaves alone. -/
def ShiftFits (keysym : UInt32) (keys : Finset UInt16) : Prop :=
  NeedsShift keysym ∨ KEY_RIGHTSHIFT ∉ keys ∧ (KEY_LEFTSHIFT ∉ keys ∨ IsSymbol keysym)

/-! ### What the tables say about typed keysyms -/

theorem symbol_entries : ∀ entry ∈ symbolKeysymToDirectKey,
    latinKey entry.keysym = none ∧ spicialKeysymToDirectKey.find? (·.keysym == entry.keysym) = none ∧
    symbolKeysymToDirectKey.find? (·.keysym == entry.keysym) = some entry ∧
    ¬capital entry.keysym ∧ ¬plain entry.keysym ∧ entry.directKey ≠ KEY_LEFTALT ∧
    entry.directKey ≠ KEY_LEFTSHIFT ∧ entry.directKey ≠ KEY_RIGHTSHIFT := by
  decide +kernel

theorem ascii_keys : ∀ n < 128, capital n.toUInt32 ∨ plain n.toUInt32 →
    latinKey n.toUInt32 = none ∧ spicialKeysymToDirectKey.find? (·.keysym == n.toUInt32) = none ∧
    symbolKeysymToDirectKey.find? (·.keysym == n.toUInt32) = none ∧
    (basicKey n.toUInt32.toUInt16).1 = decide (capital n.toUInt32) ∧
    (basicKey n.toUInt32.toUInt16).2 ≠ 0 ∧ (basicKey n.toUInt32.toUInt16).2 ≠ KEY_LEFTSHIFT ∧
    (basicKey n.toUInt32.toUInt16).2 ≠ KEY_RIGHTSHIFT := by
  decide +kernel

theorem ascii_key {k : UInt32} (ascii : capital k ∨ plain k) :
    latinKey k = none ∧ spicialKeysymToDirectKey.find? (·.keysym == k) = none ∧
    symbolKeysymToDirectKey.find? (·.keysym == k) = none ∧
    (basicKey k.toUInt16).1 = decide (capital k) ∧ (basicKey k.toUInt16).2 ≠ 0 ∧
    (basicKey k.toUInt16).2 ≠ KEY_LEFTSHIFT ∧ (basicKey k.toUInt16).2 ≠ KEY_RIGHTSHIFT := by
  have small : k.toNat < 128 := by
    simp only [capital, plain, UInt32.le_iff_toNat_le] at ascii
    simp at ascii
    omega
  have back : k.toNat.toUInt32 = k := by simp
  have fact := ascii_keys k.toNat small
  rw [back] at fact
  exact fact ascii

theorem symbol_unique {first second : SymbolKeysymToDirectKey} (member : first ∈ symbolKeysymToDirectKey)
    (member' : second ∈ symbolKeysymToDirectKey) (same : first.keysym = second.keysym) : first = second := by
  have found := (symbol_entries first member).2.2.1
  have found' := (symbol_entries second member').2.2.1
  rw [same, found'] at found
  exact (Option.some.inj found).symm

/-- The path of a typed keysym, and whether it needs Shift. -/
theorem typed_path {keysym : UInt32} (typed : Typed keysym) :
    (∃ entry : SymbolKeysymToDirectKey,
      keyPath keysym = .symbol entry.directKey entry.needShift entry.needAlt ∧ IsSymbol keysym ∧
      (NeedsShift keysym ↔ entry.needShift = true) ∧ entry.directKey ≠ KEY_LEFTALT ∧
      entry.directKey ≠ KEY_LEFTSHIFT ∧ entry.directKey ≠ KEY_RIGHTSHIFT) ∨
    (∃ code, keyPath keysym = .basic code ∧ ¬IsSymbol keysym ∧
      (NeedsShift keysym ↔ (basicKey code).1 = true) ∧ (basicKey code).2 ≠ 0 ∧
      (basicKey code).2 ≠ KEY_LEFTSHIFT ∧ (basicKey code).2 ≠ KEY_RIGHTSHIFT) := by
  by_cases symbol : IsSymbol keysym
  · left
    obtain ⟨entry, member, same⟩ := symbol
    obtain ⟨latin, special, found, notCapital, _, alt, left, right⟩ := symbol_entries entry member
    refine ⟨entry, ?_, ⟨entry, member, same⟩, ?_, alt, left, right⟩
    · simp only [keyPath, ← same, latin, special, found]
    · unfold NeedsShift
      rw [← same]
      constructor
      · rintro (isCapital | ⟨other, member', same', needs⟩)
        · exact absurd isCapital notCapital
        · rw [symbol_unique member member' same'.symm]
          exact needs
      · exact fun needs => Or.inr ⟨entry, member, rfl, needs⟩
  · right
    have ascii : capital (fixUnknown keysym) ∨ plain (fixUnknown keysym) := by
      rcases typed with isCapital | isPlain | isSymbol
      · exact Or.inl isCapital
      · exact Or.inr isPlain
      · exact absurd isSymbol symbol
    obtain ⟨latin, special, none, shift, known, left, right⟩ := ascii_key ascii
    refine ⟨(fixUnknown keysym).toUInt16, ?_, symbol, ?_, known, left, right⟩
    · simp only [keyPath, latin, special, none]
    · rw [shift, decide_eq_true_iff]
      constructor
      · rintro (isCapital | ⟨entry, member, same, _⟩)
        · exact isCapital
        · exact absurd ⟨entry, member, same⟩ symbol
      · exact Or.inl

/-! ### The exact condition -/

variable {sys : Sys} {d : Device}

/-- When the press writes its own scan code once, the property is about the keys held at that write. -/
theorem shiftMatches_replay (succeed : sys.WritesSucceed) (opened : d.mOpened = true) {keysym : UInt32}
    (scan : UInt16) (before after : List (UInt16 × Bool)) (own : (keyPath keysym).scanCode = some scan)
    (split : (keyPath keysym).strokes true = before ++ (scan, true) :: after)
    (fresh : (scan, true) ∉ before) (once : (scan, true) ∉ after) :
    ShiftMatches sys d keysym ↔
      (ShiftHeld (Strokes.replay (held d.stream) (before ++ [(scan, true)])) ↔ NeedsShift keysym) := by
  unfold ShiftMatches
  rw [keyEvent_emit succeed true keysym d opened, stream_emit, own, split]
  simp only [Option.mem_some_iff, forall_eq', List.append_cancel_left_eq]
  have press : strokes [⟨EV_KEY, scan, 1⟩] = [(scan, true)] := rfl
  have report : strokes [⟨EV_SYN, SYN_REPORT, 0⟩] = [] := rfl
  constructor
  · intro matching
    have written : eventsOf (before ++ (scan, true) :: after) =
        (eventsOf before ++ [⟨EV_SYN, SYN_REPORT, 0⟩]) ++
          ⟨EV_KEY, scan, 1⟩ :: (⟨EV_SYN, SYN_REPORT, 0⟩ :: eventsOf after) := by
      simp [eventsOf, keyWrites]
    have here := matching _ _ written
    rw [held_append, strokes_append, strokes_append, strokes_eventsOf, press, report,
      List.append_nil] at here
    exact here
  · intro right earlier later written
    have cut := congrArg strokes written
    rw [strokes_eventsOf, strokes_append, ← List.singleton_append (l := later), strokes_append, press] at cut
    have same := ((List.append_cons_inj_of_notMem fresh once).mp cut).1
    rw [held_append, strokes_append, press, ← same]
    exact right

theorem shiftMatches_iff (succeed : sys.WritesSucceed) (opened : d.mOpened = true) {keysym : UInt32}
    (typed : Typed keysym) : ShiftMatches sys d keysym ↔ ShiftFits keysym (held d.stream) := by
  unfold ShiftFits
  have sides : KEY_LEFTSHIFT ≠ KEY_RIGHTSHIFT := by decide
  have alts : KEY_LEFTALT ≠ KEY_RIGHTSHIFT := by decide
  rcases typed_path typed with ⟨entry, path, symbol, needs, alt, left, right⟩ |
    ⟨code, path, symbol, needs, known, left, right⟩
  · rw [shiftMatches_replay succeed opened entry.directKey
      [(KEY_LEFTALT, entry.needAlt), (KEY_LEFTSHIFT, entry.needShift)]
      [(KEY_LEFTSHIFT, false), (KEY_LEFTALT, false)] (by rw [path]; rfl) (by rw [path]; rfl)
      (by simp [alt, left]) (by simp)]
    -- the left Shift is forced to what the entry says, the right one is as it was
    have forced : ShiftHeld (Strokes.replay (held d.stream) ([(KEY_LEFTALT, entry.needAlt),
        (KEY_LEFTSHIFT, entry.needShift)] ++ [(entry.directKey, true)])) ↔
          entry.needShift = true ∨ KEY_RIGHTSHIFT ∈ held d.stream := by
      unfold ShiftHeld
      rw [Strokes.mem_replay, Strokes.mem_replay]
      simp [left, right, sides, alts]
    rw [forced, needs]
    by_cases shifted : entry.needShift = true <;> simp [shifted, symbol]
  · cases shifted : (basicKey code).1 with
    | true =>
      rw [shiftMatches_replay succeed opened (basicKey code).2 [(KEY_LEFTSHIFT, true)] []
        (by simp [path, KeyPath.scanCode, known])
        (by simp [path, KeyPath.strokes, basicStrokes, known, shifted]) (by simp [left]) (by simp)]
      have pressed : ShiftHeld (Strokes.replay (held d.stream)
          ([(KEY_LEFTSHIFT, true)] ++ [((basicKey code).2, true)])) := by
        unfold ShiftHeld
        left
        rw [Strokes.mem_replay]
        simp [left]
      have needed := needs.mpr shifted
      exact iff_of_true ⟨fun _ => needed, fun _ => pressed⟩ (Or.inl needed)
    | false =>
      rw [shiftMatches_replay succeed opened (basicKey code).2 [] []
        (by simp [path, KeyPath.scanCode, known])
        (by simp [path, KeyPath.strokes, basicStrokes, known, shifted]) (by simp) (by simp)]
      have kept : ShiftHeld (Strokes.replay (held d.stream) ([] ++ [((basicKey code).2, true)])) ↔
          ShiftHeld (held d.stream) := by
        unfold ShiftHeld
        rw [Strokes.mem_replay, Strokes.mem_replay]
        simp [left, right]
      rw [kept]
      simp [ShiftHeld, needs, shifted, symbol, and_comm]

def keyStep (sys : Sys) (d : Device) (event : Bool × UInt32) : Device := (keyEvent sys event.1 event.2 d).2

/-- In a run of key events the reader has the right Shift at every press of a letter, digit or
symbol exactly when at each of them the keysym needs Shift, or no Shift is held that its path
leaves alone. -/
theorem shift_matches_along_run (succeed : sys.WritesSucceed) (opened : d.mOpened = true)
    (run : List (Bool × UInt32)) :
    Runs.Along (keyStep sys)
        (fun d event => event.1 = true → Typed event.2 → ShiftMatches sys d event.2) d run ↔
      Runs.Along (keyStep sys)
        (fun d event => event.1 = true → Typed event.2 → ShiftFits event.2 (held d.stream)) d run := by
  apply Runs.along_iff (I := fun d => d.mOpened = true) opened
  · intro d event _ opened
    constructor
    · exact fun matching press typed => (shiftMatches_iff succeed opened typed).mp (matching press typed)
    · exact fun fits press typed => (shiftMatches_iff succeed opened typed).mpr (fits press typed)
  · intro d event _ opened _
    rw [keyStep, keyEvent_emit succeed event.1 event.2 d opened]
    exact opened

theorem shift_matches_along_symbols :
    Runs.Along (keyStep .succeeding)
        (fun d event => event.1 = true → Typed event.2 → ShiftMatches .succeeding d event.2)
        (.opened false false) [(true, XK_A), (false, XK_A), (true, XK_minus)] ↔
      Runs.Along (keyStep .succeeding)
        (fun d event => event.1 = true → Typed event.2 → ShiftFits event.2 (held d.stream))
        (.opened false false) [(true, XK_A), (false, XK_A), (true, XK_minus)] :=
  shift_matches_along_run (fun _ => rfl) rfl _

/-- `e` pressed before `A` is released is typed with the Shift of `A`. -/
theorem shift_leaks_into_next_letter :
    Typed XK_e ∧
      ¬ShiftMatches .succeeding (keyRun .succeeding [(true, XK_A)] (.opened false false)) XK_e := by
  refine ⟨by decide, ?_⟩
  intro matching
  have right := matching KEY_E (by decide) [⟨EV_SYN, SYN_REPORT, 0⟩] [⟨EV_SYN, SYN_REPORT, 0⟩] (by decide)
  have needed : NeedsShift XK_e := right.mp (Or.inl (by decide))
  exact absurd needed (by decide)

end VncFlinger.Input
