import VncFlinger.Loop.Wakeups

/-!
# What was stored reaches the server

The cursor and the clipboard along a run in which the loop processes events only with a server: the
last cursor set is pending or delivered, and a clipboard change is pending or announced.
-/

namespace VncFlinger.Loop

variable {φ : Type} {w w' : World φ} {e : Event φ}

structure CursorKept (w : World φ) : Prop where
  current : ∀ c, w.lastSet = some c → w.cur = c
  stored : w.Pending .cursor → w.lastSet.isSome
  reached : w.Pending .cursor ∨ w.delivered.getLast? = w.lastSet

def ClipboardKept (w : World φ) : Prop :=
  w.clipboardLog.getLast? = some .changed → w.Pending .clipboard

theorem CursorKept.congr (kept : CursorKept w) (cur : w'.cur = w.cur) (lastSet : w'.lastSet = w.lastSet)
    (delivered : w'.delivered = w.delivered) (pending : w'.Pending .cursor ↔ w.Pending .cursor) :
    CursorKept w' := by
  obtain ⟨current, stored, reached⟩ := kept
  refine ⟨?_, ?_, ?_⟩
  · rwa [cur, lastSet]
  · rwa [lastSet, pending]
  · rwa [delivered, lastSet, pending]

theorem ClipboardKept.congr (kept : ClipboardKept w) (log : w'.clipboardLog = w.clipboardLog)
    (pending : w'.Pending .clipboard ↔ w.Pending .clipboard) : ClipboardKept w' := by
  unfold ClipboardKept
  rw [log, pending]
  exact kept

theorem LoopMove.cursor_kept (started : w.pc.processing = true → w.mServer = .started)
    (kept : CursorKept w) (move : LoopMove w w') : CursorKept w' := by
  have pending := fun away => LoopMove.pending (k := .cursor) away move
  cases move with
  | between outside moved =>
    have same := moved.data
    exact kept.congr same.cur same.lastSet same.delivered (pending (not_act outside))
  | deliver place =>
    -- the cursor handed to the server is the one last set, whoever else is about to set one
    obtain ⟨c, last⟩ := Option.isSome_iff_exists.mp (kept.stored (Or.inr (Or.inr place)))
    have newest := kept.current c last
    refine ⟨kept.current, ?_, Or.inr ?_⟩
    · intro _
      show w.lastSet.isSome = true
      rw [last]
      rfl
    · show (w.delivered ++ [w.cur]).getLast? = w.lastSet
      rw [last, newest, List.getLast?_concat]
  | crash behind unset => exact absurd (started (Pc.behindFlag_processing behind)) unset
  | stay => exact kept
  | read place | cursor place | noCursor place | frames place | noFrames place | update place | renew place
  | lock place | lockEmpty place | clipboard place | noClipboard place | announce place
  | noAnnounce place =>
    exact kept.congr rfl rfl rfl (pending (by rw [place]; decide))

theorem LoopMove.clipboard_kept (started : w.pc.processing = true → w.mServer = .started)
    (kept : ClipboardKept w) (move : LoopMove w w') : ClipboardKept w' := by
  have pending := fun away => LoopMove.pending (k := .clipboard) away move
  cases move with
  | between outside moved => exact kept.congr moved.data.clipboardLog (pending (not_act outside))
  | announce place =>
    intro last
    rw [show (World.goto { w with clipboardLog := w.clipboardLog ++ [ClipboardEntry.announced] }
      .test).clipboardLog = w.clipboardLog ++ [.announced] from rfl, List.getLast?_concat] at last
    cases last
  | noAnnounce place null =>
    have set := started (by rw [place]; rfl)
    rw [set] at null
    cases null
  | crash behind unset => exact absurd (started (Pc.behindFlag_processing behind)) unset
  | stay => exact kept
  | read place | cursor place | noCursor place | deliver place | frames place | noFrames place
  | update place | renew place | lock place | lockEmpty place | clipboard place | noClipboard place =>
    exact kept.congr rfl (pending (by rw [place]; decide))

theorem CallerMove.cursor_kept (kept : CursorKept w) (move : CallerMove w e w') : CursorKept w' := by
  cases move with
  | idle => exact kept
  | setCursor c =>
    refine ⟨?_, fun _ => rfl, Or.inl store_pending⟩
    intro c' last
    exact Option.some.inj last
  | notifyClipboardChanged | queueFrame => exact kept.congr rfl rfl rfl (update_pending (by decide))
  | flag k storing => exact kept.congr rfl rfl rfl (set_pending storing)
  | notify k => exact kept.congr rfl rfl rfl notified_pending
  | outside => exact kept.congr rfl rfl rfl Iff.rfl

theorem CallerMove.clipboard_kept (kept : ClipboardKept w) (move : CallerMove w e w') :
    ClipboardKept w' := by
  cases move with
  | idle => exact kept
  | notifyClipboardChanged => exact fun _ => store_pending
  | setCursor | queueFrame => exact kept.congr rfl (update_pending (by decide))
  | flag k storing => exact kept.congr rfl (set_pending storing)
  | notify k => exact kept.congr rfl notified_pending
  | outside => exact kept.congr rfl Iff.rfl

theorem step_cursor_kept (started : w.pc.processing = true → w.mServer = .started)
    (kept : CursorKept w) (e : Event φ) : CursorKept (step w e) := by
  rcases step_cases w e with ⟨_, move⟩ | ⟨choice, _, move⟩
  · exact move.cursor_kept kept
  · exact move.cursor_kept started kept

theorem step_clipboard_kept (started : w.pc.processing = true → w.mServer = .started)
    (kept : ClipboardKept w) (e : Event φ) : ClipboardKept (step w e) := by
  rcases step_cases w e with ⟨_, move⟩ | ⟨choice, _, move⟩
  · exact move.clipboard_kept kept
  · exact move.clipboard_kept started kept

/-! ### The whole run -/

/-- The loop processes events with a desktop that was started. -/
def ProcessesStarted (w : World φ) (_ : Event φ) : Prop := w.pc.processing = true → w.mServer = .started

instance (w : World φ) (e : Event φ) : Decidable (ProcessesStarted w e) :=
  inferInstanceAs (Decidable (_ → _))

structure Kept (w : World φ) : Prop where
  heard : ∀ k, k ≠ .frame → Doorbell.Heard (w.bell k)
  cursor : CursorKept w
  clipboard : ClipboardKept w

/-- No caller is under way, nothing is counted, and the loop is outside the processing. -/
structure Quiet (w : World φ) : Prop where
  counter : w.counter = 0
  storing : ∀ k, k ≠ .frame → (w.signals k).storing = 0
  notifying : ∀ k, k ≠ .frame → (w.signals k).notifying = 0
  outside : w.pc.processing = false

/-- A set flag will be tested: somebody has notified or will, or the loop is on its way to the test. -/
def WillBeTested (w : World φ) : Prop :=
  ∀ k, k ≠ .frame → (w.signals k).changed = true →
    0 < w.counter ∨ 0 < (w.signals k).notifying ∨ w.pc.due k = true

structure Settled (w : World φ) : Prop where
  clear : ∀ k, k ≠ .frame → (w.signals k).changed = false
  delivered : w.delivered.getLast? = w.lastSet
  announced : w.clipboardLog.getLast? ≠ some .changed

theorem constructed_kept (cur : Cursor) (nonNull : Bool) :
    Kept (World.constructed cur nonNull : World φ) := by
  refine ⟨?_, ⟨?_, ?_, Or.inr rfl⟩, ?_⟩
  · intro k kept raised
    cases raised
  · intro c last
    cases last
  · rintro (storing | changed | place)
    · cases storing
    · cases changed
    · cases place
  · intro last
    cases last

theorem step_kept (started : ProcessesStarted w e) (kept : Kept w) : Kept (step w e) where
  heard k other := (kept.heard k other).move (step_bell other started e)
  cursor := step_cursor_kept started kept.cursor e
  clipboard := step_clipboard_kept started kept.clipboard e

theorem Quiet.not_pending {k : Flag} (quiet : Quiet w) (other : k ≠ .frame)
    (clear : (w.signals k).changed = false) : ¬ w.Pending k := by
  rintro (storing | changed | place)
  · rw [quiet.storing k other] at storing
    omega
  · rw [clear] at changed
    cases changed
  · exact not_act quiet.outside place

theorem Kept.settled (kept : Kept w) (quiet : Quiet w) : Settled w := by
  have clear : ∀ k, k ≠ .frame → (w.signals k).changed = false := fun k other =>
    (kept.heard k other).quiet quiet.counter (quiet.notifying k other) (Pc.not_due quiet.outside)
  have cursor := quiet.not_pending (by decide) (clear .cursor (by decide))
  have clipboard := quiet.not_pending (by decide) (clear .clipboard (by decide))
  exact ⟨clear, kept.cursor.reached.resolve_left cursor, fun last => clipboard (kept.clipboard last)⟩

theorem notifications_reach_server {cur : Cursor} {nonNull : Bool} {run : List (Event φ)}
    (started : Runs.Along step ProcessesStarted (World.constructed cur nonNull) run) :
    WillBeTested (run.foldl step (World.constructed cur nonNull)) ∧
      (Quiet (run.foldl step (World.constructed cur nonNull)) →
        Settled (run.foldl step (World.constructed cur nonNull))) := by
  have kept : Kept (run.foldl step (World.constructed cur nonNull)) :=
    Runs.foldl_invariant_along (constructed_kept cur nonNull) started fun _ _ here before =>
      step_kept here before
  exact ⟨kept.heard, kept.settled⟩

def bothChanged : List (Event ℕ) :=
  [.setCursor ⟨16, 16, 0, 0, 4096⟩, .notifyClipboardChanged, .flag .cursor, .flag .clipboard,
    .notify .cursor, .notify .clipboard]

/-- A cursor and a clipboard change, served by one iteration. -/
theorem notifications_reach_server_once :
    Settled ((firstClient ++ bothChanged ++ iteration ++ List.replicate 5 (Event.loop .next)).foldl step
      (World.constructed ⟨0, 0, 0, 0, 0⟩ true)) := by
  apply (notifications_reach_server (by decide)).2
  exact ⟨by decide, fun k _ => by cases k <;> decide, fun k _ => by cases k <;> decide, by decide⟩

end VncFlinger.Loop
