import VncFlinger.Loop.Moves

/-!
# No lost notification

The flags of the cursor and the clipboard with the event descriptor are a bell: the loop sets the
count to zero and looks at the flags afterwards, all of them. What a caller stored is pending until
the part of the `process` function behind the flag has run.
-/

namespace VncFlinger.Loop

variable {φ : Type} {w w' : World φ} {e : Event φ}

/-! ### The bell of a flag -/

/-- The loop has read the descriptor and not tested the flag yet. -/
def Pc.due : Flag → Pc → Bool
  | .cursor, .cursor => true
  | .frame, .cursor | .frame, .deliver | .frame, .frames => true
  | .clipboard, .cursor | .clipboard, .deliver | .clipboard, .frames => true
  | .clipboard, .update | .clipboard, .lock | .clipboard, .clipboard => true
  | _, _ => false

def World.bell (w : World φ) (k : Flag) : Doorbell.Bell :=
  { counter := w.counter, raised := (w.signals k).changed, ringing := (w.signals k).notifying
    due := w.pc.due k }

theorem Pc.not_due {k : Flag} {pc : Pc} (outside : pc.processing = false) : pc.due k = false := by
  cases pc with
  | cursor | deliver | frames | update | lock | clipboard | announce => cases outside
  | _ => cases k <;> rfl

/-- A step that is not about the flag may notify for another one. -/
theorem World.bell_keep {k : Flag} (counter : 0 < w.counter → 0 < w'.counter)
    (changed : (w'.signals k).changed = (w.signals k).changed)
    (notifying : (w'.signals k).notifying = (w.signals k).notifying) (due : w'.pc.due k = w.pc.due k) :
    Doorbell.Move (w.bell k) (w'.bell k) := by
  have same : w'.bell k = { w.bell k with counter := w'.counter } := by
    simp only [World.bell, changed, notifying, due]
  rw [same]
  exact .keep counter

/-- The loop tests the flag and leaves it clear. -/
theorem World.bell_look {k : Flag} (counter : w'.counter = w.counter)
    (changed : (w'.signals k).changed = false)
    (notifying : (w'.signals k).notifying = (w.signals k).notifying) (due : w'.pc.due k = false) :
    Doorbell.Move (w.bell k) (w'.bell k) := by
  have same : w'.bell k = { w.bell k with raised := false, due := false } := by
    simp only [World.bell, counter, changed, notifying, due]
  rw [same]
  exact .look

/-- What a step between two rounds of processing leaves alone: the count, the flags and what the callers
stored. -/
structure SameData (w w' : World φ) : Prop where
  counter : w'.counter = w.counter
  signals : w'.signals = w.signals
  cur : w'.cur = w.cur
  lastSet : w'.lastSet = w.lastSet
  delivered : w'.delivered = w.delivered
  clipboardLog : w'.clipboardLog = w.clipboardLog

theorem Between.data (moved : Between w w') : SameData w w' := by
  cases moved with
  | same | start | renew | stop => exact ⟨rfl, rfl, rfl, rfl, rfl, rfl⟩

theorem Between.bell {k : Flag} (outside : w.pc.processing = false) (moved : Between w w') :
    Doorbell.Move (w.bell k) (w'.bell k) := by
  have due : w'.pc.due k = w.pc.due k := by rw [Pc.not_due moved.outside, Pc.not_due outside]
  apply World.bell_keep
  · rw [moved.data.counter]
    exact id
  · rw [moved.data.signals]
  · rw [moved.data.signals]
  · exact due

theorem LoopMove.bell_cursor (started : w.pc.processing = true → w.mServer = .started)
    (move : LoopMove w w') : Doorbell.Move (w.bell .cursor) (w'.bell .cursor) := by
  cases move with
  | between outside moved => exact moved.bell outside
  | read => exact .answer
  | cursor => exact World.bell_look rfl rfl rfl rfl
  | noCursor place same => exact World.bell_look rfl same rfl rfl
  | stay => exact .refl _
  | crash behind unset => exact absurd (started (Pc.behindFlag_processing behind)) unset
  | deliver place | frames place | noFrames place | update place | renew place | lock place
  | lockEmpty place | clipboard place | noClipboard place | announce place | noAnnounce place =>
    exact World.bell_keep id rfl rfl (by rw [place]; rfl)

theorem LoopMove.bell_clipboard (started : w.pc.processing = true → w.mServer = .started)
    (move : LoopMove w w') : Doorbell.Move (w.bell .clipboard) (w'.bell .clipboard) := by
  cases move with
  | between outside moved => exact moved.bell outside
  | read => exact .answer
  | clipboard => exact World.bell_look rfl rfl rfl rfl
  | noClipboard place same => exact World.bell_look rfl same rfl rfl
  | stay => exact .refl _
  | crash behind unset => exact absurd (started (Pc.behindFlag_processing behind)) unset
  | cursor place | noCursor place | deliver place | frames place | noFrames place | update place
  | renew place | lock place | lockEmpty place | announce place | noAnnounce place =>
    exact World.bell_keep id rfl rfl (by rw [place]; rfl)

theorem update_bell {k j : Flag} (f : Signal → Signal) (other : k ≠ j) :
    (w.update j f).bell k = w.bell k := by
  simp [World.bell, Function.update_of_ne other]

theorem store_bell {k j : Flag} : (w.update j .store).bell k = w.bell k := by
  by_cases same : k = j
  · subst same
    simp [World.bell, Signal.store]
  · exact update_bell _ same

theorem CallerMove.bell {k : Flag} (move : CallerMove w e w') :
    Doorbell.Move (w.bell k) (w'.bell k) := by
  cases move with
  | idle | outside => exact .refl _
  | setCursor | notifyClipboardChanged | queueFrame =>
    rw [store_bell]
    exact .refl _
  | flag j =>
    by_cases same : k = j
    · subst same
      have raised : (w.update k .set).bell k
          = { w.bell k with raised := true, ringing := (w.bell k).ringing + 1 } := by
        simp [World.bell, Signal.set]
      rw [raised]
      exact .raise
    · rw [update_bell _ same]
      exact .refl _
  | notify j =>
    by_cases same : k = j
    · subst same
      have rung : ({ w with counter := written w.counter }.update k .notified).bell k
          = { w.bell k with counter := written w.counter, ringing := (w.bell k).ringing - 1 } := by
        simp [World.bell, Signal.notified]
      rw [rung]
      exact .ring (written_pos _)
    · rw [update_bell _ same]
      exact World.bell_keep (fun _ => written_pos _) rfl rfl rfl

/-- Every step, of a caller or of the loop, is a move of the bell. -/
theorem step_bell {k : Flag} (kept : k ≠ .frame)
    (started : w.pc.processing = true → w.mServer = .started) (e : Event φ) :
    Doorbell.Move (w.bell k) ((step w e).bell k) := by
  rcases step_cases w e with ⟨_, move⟩ | ⟨choice, _, move⟩
  · exact move.bell
  · cases k with
    | cursor => exact move.bell_cursor started
    | frame => exact absurd rfl kept
    | clipboard => exact move.bell_clipboard started

/-! ### Data that is pending -/

/-- Something was stored, and the part behind the flag has not run on it. -/
def World.Pending (w : World φ) (k : Flag) : Prop :=
  0 < (w.signals k).storing ∨ (w.signals k).changed = true ∨ w.pc = k.act

theorem not_act {k : Flag} {pc : Pc} (outside : pc.processing = false) : pc ≠ k.act := by
  rintro rfl
  cases k <;> cases outside

theorem pending_congr {k : Flag} (signals : w'.signals k = w.signals k) (before : w.pc ≠ k.act)
    (after : w'.pc ≠ k.act) : w'.Pending k ↔ w.Pending k := by
  simp only [World.Pending, signals, before, after]

/-- The test of a flag hands what is pending to the part behind it. -/
theorem pending_clear {k j : Flag} (before : w.pc ≠ k.act) (other : k ≠ j → j.act ≠ k.act)
    (changed : (w.signals j).changed = true) :
    ((w.update j .clear).goto j.act).Pending k ↔ w.Pending k := by
  by_cases same : k = j
  · subst same
    exact iff_of_true (Or.inr (Or.inr rfl)) (Or.inr (Or.inl changed))
  · apply pending_congr _ before
    · exact other same
    · simp [Function.update_of_ne same]

theorem act_injective {k j : Flag} (other : k ≠ j) : j.act ≠ k.act := by
  cases k <;> cases j <;> simp_all [Flag.act]

theorem LoopMove.pending {k : Flag} (before : w.pc ≠ k.act) (move : LoopMove w w') :
    w'.Pending k ↔ w.Pending k := by
  cases move with
  | between outside moved => exact pending_congr (by rw [moved.data.signals]) before (not_act moved.outside)
  | read => exact pending_congr rfl before (by cases k <;> simp [Flag.act])
  | cursor place changed => exact pending_clear before act_injective changed
  | frames place display changed => exact pending_clear before act_injective changed
  | clipboard place changed => exact pending_clear before act_injective changed
  | stay => exact Iff.rfl
  | noCursor | deliver | noFrames | update | renew | lock | lockEmpty | noClipboard | announce | noAnnounce
  | crash =>
    exact pending_congr rfl before (by cases k <;> simp [Flag.act])

theorem update_pending {k j : Flag} {f : Signal → Signal} (other : k ≠ j) :
    (w.update j f).Pending k ↔ w.Pending k := by
  simp only [World.Pending, World.update_signals, Function.update_of_ne other, World.update_pc]

theorem set_pending {k j : Flag} (storing : 0 < (w.signals j).storing) :
    (w.update j .set).Pending k ↔ w.Pending k := by
  by_cases same : k = j
  · subst same
    exact iff_of_true (Or.inr (Or.inl (by simp [Signal.set]))) (Or.inl storing)
  · exact update_pending same

theorem notified_pending {k j : Flag} : (w.update j .notified).Pending k ↔ w.Pending k := by
  by_cases same : k = j
  · subst same
    simp [World.Pending, Signal.notified]
  · exact update_pending same

theorem store_pending {k : Flag} : (w.update k .store).Pending k :=
  Or.inl (by simp [Signal.store])

end VncFlinger.Loop
