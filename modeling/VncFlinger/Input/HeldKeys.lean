import VncFlinger.Input.Keyboard

/-!
# Keys left held

What a press leaves down, the release of the same keysym takes up, so balanced runs leave nothing
held. A tap lifts every code it writes, so it disturbs exactly the held keys among them.
-/

namespace VncFlinger.Input
open Evdev

variable {sys : Sys} {d : Device}

theorem held_keyRun (succeed : sys.WritesSucceed) (opened : d.mOpened = true)
    (run : List (Bool × UInt32)) :
    held (keyRun sys run d).stream =
      Strokes.replay (held d.stream) (run.flatMap fun event => (keyPath event.2).strokes event.1) := by
  rw [keyRun_emit succeed run d opened, stream_emit, held_append, strokes_eventsOf]

/-! ### Press and release of one keysym -/

theorem basicStrokes_direction (code : UInt16) (down : Bool) :
    ∀ stroke ∈ basicStrokes code down, stroke.2 = down := by
  intro stroke member
  unfold basicStrokes at member
  split at member
  · simp at member
  · split at member
    · simp at member
      rcases member with rfl | rfl <;> rfl
    · simp at member
      rw [member]

theorem basicStrokes_flip {code k : UInt16} (pressed : (k, true) ∈ basicStrokes code true) :
    (k, false) ∈ basicStrokes code false := by
  unfold basicStrokes at pressed ⊢
  split at pressed
  · simp at pressed
  · rename_i known
    rw [if_neg known]
    split at pressed <;> simpa [*] using pressed

theorem release_lifts (keysym : UInt32) :
    ∀ stroke ∈ (keyPath keysym).strokes false, stroke.2 = false := by
  intro stroke member
  cases path : keyPath keysym with
  | latin altChar base =>
    rw [path] at member
    exact basicStrokes_direction base false stroke (by simpa [KeyPath.strokes] using member)
  | special directKey =>
    have same : stroke = (directKey, false) := by simpa [path, KeyPath.strokes] using member
    rw [same]
  | symbol directKey needShift needAlt =>
    have same : stroke = (directKey, false) := by simpa [path, KeyPath.strokes] using member
    rw [same]
  | basic code =>
    rw [path] at member
    exact basicStrokes_direction code false stroke member

theorem release_covers {path : KeyPath} {k : UInt16}
    (down : Strokes.lastStroke k (path.strokes true) = some true) : (k, false) ∈ path.strokes false := by
  cases path with
  | latin altChar base =>
    simp only [KeyPath.strokes, if_true, Strokes.lastStroke_append, Option.or_eq_some_iff] at down
    rcases down with base_down | ⟨_, dead_down⟩
    · simpa [KeyPath.strokes] using basicStrokes_flip (Strokes.lastStroke_mem base_down)
    · -- the dead key itself is taken up again by the press
      by_cases alt : KEY_LEFTALT = k <;> by_cases dead : altChar = k <;> simp [alt, dead] at dead_down
  | special directKey =>
    have same : directKey = k := by simpa [KeyPath.strokes] using down
    simp [KeyPath.strokes, same]
  | symbol directKey needShift needAlt =>
    by_cases alt : KEY_LEFTALT = k
    · simp [KeyPath.strokes, alt] at down
    · by_cases shift : KEY_LEFTSHIFT = k
      · simp [KeyPath.strokes, alt, shift] at down
      · have same : directKey = k := by
          by_contra other
          simp [KeyPath.strokes, alt, shift, other] at down
        simp [KeyPath.strokes, same]
  | basic code => exact basicStrokes_flip (Strokes.lastStroke_mem down)

/-- In any balanced run of key events on an open device no key is held at the end. -/
theorem keys_released (succeed : sys.WritesSucceed) (opened : d.mOpened = true)
    (clear : held d.stream = ∅) (run : List (Bool × UInt32)) (balanced : Strokes.Balanced run) :
    held (keyRun sys run d).stream = ∅ := by
  rw [held_keyRun succeed opened, clear]
  exact Strokes.replay_balanced (fun down keysym => (keyPath keysym).strokes down)
    release_lifts (fun _ _ => release_covers) balanced

/-- Overlapping presses of two characters on one scan code. -/
theorem keys_released_overlap :
    held (keyRun .succeeding [(true, XK_A), (true, XK_a), (true, XK_Aacute), (false, XK_A),
      (false, XK_Aacute), (false, XK_a)] (.opened false false)).stream = ∅ :=
  keys_released (fun _ => rfl) rfl (by decide) _ (by decide)

/-! ### Taps -/

/-- The scan code a path writes for its own character. -/
def KeyPath.scanCode : KeyPath → Option UInt16
  | .latin _ base => if (basicKey base).2 = 0 then none else some (basicKey base).2
  | .special directKey => some directKey
  | .symbol directKey _ _ => some directKey
  | .basic code => if (basicKey code).2 = 0 then none else some (basicKey code).2

def basicShift (code : UInt16) : List UInt16 :=
  if (basicKey code).2 ≠ 0 ∧ (basicKey code).1 then [KEY_LEFTSHIFT] else []

/-- The other codes a path writes: the modifiers it sets for itself, and the dead key. -/
def KeyPath.synthetic : KeyPath → List UInt16
  | .latin altChar base => [KEY_LEFTALT, altChar] ++ basicShift base
  | .special _ => []
  | .symbol _ _ _ => [KEY_LEFTALT, KEY_LEFTSHIFT]
  | .basic code => basicShift code

def KeyPath.tap (path : KeyPath) : List (UInt16 × Bool) := path.strokes true ++ path.strokes false

theorem codes_basicStrokes {code k : UInt16} {down : Bool} :
    k ∈ (basicStrokes code down).map Prod.fst ↔
      k ∈ basicShift code ∨ (KeyPath.basic code).scanCode = some k := by
  unfold basicStrokes basicShift KeyPath.scanCode
  by_cases unknown : (basicKey code).2 = 0
  · simp [unknown]
  · cases shift : (basicKey code).1 <;> simp [unknown, eq_comm]

theorem codes_tap {path : KeyPath} {k : UInt16} :
    k ∈ path.tap.map Prod.fst ↔ k ∈ path.synthetic ∨ path.scanCode = some k := by
  unfold KeyPath.tap
  rw [List.map_append, List.mem_append]
  cases path with
  | latin altChar base =>
    have dead : k ∈ [KEY_LEFTALT, altChar, KEY_LEFTALT, altChar] ↔ k ∈ [KEY_LEFTALT, altChar] := by
      constructor <;> intro member <;> simp only [List.mem_cons, List.not_mem_nil] at member ⊢ <;> grind
    have pressed : k ∈ ((KeyPath.latin altChar base).strokes true).map Prod.fst ↔
        k ∈ [KEY_LEFTALT, altChar, KEY_LEFTALT, altChar] ∨ k ∈ (basicStrokes base true).map Prod.fst := by
      rw [KeyPath.strokes, if_pos rfl, List.map_append, List.mem_append]
      rfl
    have lifted : (KeyPath.latin altChar base).strokes false = basicStrokes base false := rfl
    have own : (KeyPath.latin altChar base).scanCode = (KeyPath.basic base).scanCode := rfl
    rw [pressed, lifted, codes_basicStrokes, codes_basicStrokes, dead, own, KeyPath.synthetic,
      List.mem_append]
    grind
  | special directKey => simp [KeyPath.strokes, KeyPath.synthetic, KeyPath.scanCode, eq_comm]
  | symbol directKey needShift needAlt =>
    simp only [KeyPath.strokes, KeyPath.synthetic, KeyPath.scanCode, if_true, List.map_append, List.mem_append,
      List.map_cons, List.map_nil, List.mem_cons, List.not_mem_nil, Option.some.injEq]
    grind
  | basic code =>
    rw [KeyPath.strokes, KeyPath.strokes, codes_basicStrokes, codes_basicStrokes, or_self, KeyPath.synthetic]

/-- After any run of key events, a tap of a keysym whose own scan code is free leaves the held keys
as they were exactly when none of the codes its path adds is held. -/
theorem tap_keeps_held_iff (succeed : sys.WritesSucceed) (opened : d.mOpened = true)
    (run : List (Bool × UInt32)) (keysym : UInt32)
    (free : ∀ k ∈ (keyPath keysym).scanCode, k ∉ held (keyRun sys run d).stream) :
    held (keyRun sys (run ++ [(true, keysym), (false, keysym)]) d).stream =
        held (keyRun sys run d).stream ↔
      ∀ k ∈ (keyPath keysym).synthetic, k ∉ held (keyRun sys run d).stream := by
  have after : held (keyRun sys (run ++ [(true, keysym), (false, keysym)]) d).stream =
      Strokes.replay (held (keyRun sys run d).stream) (keyPath keysym).tap := by
    rw [held_keyRun succeed opened, held_keyRun succeed opened, List.flatMap_append,
      Strokes.replay_append]
    simp [KeyPath.tap]
  have lifted : ∀ k, Strokes.lastStroke k (keyPath keysym).tap ≠ some true :=
    Strokes.tap_lifted (fun down keysym => (keyPath keysym).strokes down)
      release_lifts (fun _ _ => release_covers) keysym
  rw [after, Strokes.replay_eq_self_iff lifted]
  constructor
  · intro absent k member
    obtain ⟨stroke, written, same⟩ := List.mem_map.mp (codes_tap.mpr (Or.inl member))
    exact same ▸ absent stroke written
  · intro absent stroke written
    rcases codes_tap.mp (List.mem_map_of_mem written) with extra | own
    · exact absent stroke.1 extra
    · exact free stroke.1 own

theorem tap_keeps_held_plain :
    held (keyRun .succeeding ([(true, XK_Shift_R)] ++ [(true, XK_exclam), (false, XK_exclam)])
        (.opened false false)).stream =
        held (keyRun .succeeding [(true, XK_Shift_R)] (.opened false false)).stream ↔
      ∀ k ∈ (keyPath XK_exclam).synthetic,
        k ∉ held (keyRun .succeeding [(true, XK_Shift_R)] (.opened false false)).stream := by
  have own : (keyPath XK_exclam).scanCode = some KEY_1 := rfl
  have up : KEY_1 ∉ held (keyRun .succeeding [(true, XK_Shift_R)] (.opened false false)).stream := by decide
  refine tap_keeps_held_iff (fun _ => rfl) rfl _ _ ?_
  rintro k member
  rw [Option.mem_def, own] at member
  exact Option.some.inj member ▸ up

theorem tap_releases_shift :
    KEY_1 ∉ held (keyRun .succeeding [(true, XK_Shift_L)] (.opened false false)).stream ∧
    held (keyRun .succeeding [(true, XK_Shift_L)] (.opened false false)).stream = {KEY_LEFTSHIFT} ∧
    held (keyRun .succeeding [(true, XK_Shift_L), (true, XK_exclam), (false, XK_exclam)]
      (.opened false false)).stream = ∅ := by
  decide

end VncFlinger.Input
