import VncFlinger.Loop.Moves

/-!
# The server pointer before `start`

The loop processes events as soon as there is a client, and only an authenticated client starts the
desktop. Until then nothing clears a flag without using `mServer`, so a flag is set exactly when it
was ever issued.
-/

namespace VncFlinger.Loop

variable {φ : Type} {w w' : World φ} {e : Event φ}

/-- The step does not bring the loop to a use of an `mServer` that `start` has not set. -/
def UsesStarted (w : World φ) (e : Event φ) : Prop :=
  (step w e).pc.behindFlag = true → (step w e).mServer = .started

/-- Before `start`, a flag the loop tests was never set. -/
def NothingIssued (w : World φ) : Event φ → Prop
  | .loop _ => w.mServer ≠ .started →
    (w.pc = .cursor → (w.signals .cursor).issued = 0) ∧
      (w.pc = .clipboard → (w.signals .clipboard).issued = 0)
  | _ => True

def Signal.Uncleared (s : Signal) : Prop := s.changed = true ↔ 0 < s.issued

structure BeforeStart (w : World φ) : Prop where
  display : w.mServer ≠ .started → w.mVirtualDisplay = false
  uncleared : w.mServer ≠ .started → ∀ k, (w.signals k).Uncleared
  uses : w.pc.behindFlag = true → w.mServer = .started

instance (w : World φ) (e : Event φ) : Decidable (UsesStarted w e) :=
  inferInstanceAs (Decidable (_ → _))

theorem not_behind {pc : Pc} (outside : pc.processing = false) : pc.behindFlag = false := by
  cases pc <;> first | rfl | cases outside

theorem BeforeStart.unset_clear {k : Flag} (before : BeforeStart w) (unset : w.mServer ≠ .started)
    (clear : (w.signals k).changed = false) : (w.signals k).issued = 0 := by
  have never := before.uncleared unset k
  rw [Signal.Uncleared, clear] at never
  have none : ¬ 0 < (w.signals k).issued := fun issued => Bool.noConfusion (never.mpr issued)
  omega

theorem BeforeStart.set_issued {k : Flag} (before : BeforeStart w) (unset : w.mServer ≠ .started)
    (changed : (w.signals k).changed = true) : (w.signals k).issued ≠ 0 :=
  Nat.ne_of_gt ((before.uncleared unset k).mp changed)

theorem nothingIssued_elsewhere {choice : Choice} (cursor : w.pc ≠ .cursor)
    (clipboard : w.pc ≠ .clipboard) : NothingIssued w (.loop choice) :=
  fun _ => ⟨fun place => absurd place cursor, fun place => absurd place clipboard⟩

theorem Between.started (moved : Between w w') (started : w.mServer = .started) :
    w'.mServer = .started := by
  cases moved with
  | same | stop => exact started
  | start | renew => rfl

theorem LoopMove.started (move : LoopMove w w') (started : w.mServer = .started) :
    w'.mServer = .started := by
  cases move with
  | between _ moved => exact moved.started started
  | _ => exact started

/-- A flag that was set leads behind it, and a clear one was never set. -/
theorem LoopMove.uses_iff {choice : Choice} (before : BeforeStart w) (move : LoopMove w w') :
    (w'.pc.behindFlag = true → w'.mServer = .started) ↔ NothingIssued w (.loop choice) := by
  by_cases unset : w.mServer = .started
  · exact iff_of_true (fun _ => move.started unset) fun not => absurd unset not
  have away : w.pc.behindFlag = false := Bool.eq_false_iff.mpr fun behind => unset (before.uses behind)
  cases move with
  | between outside moved =>
    refine iff_of_true ?_ (nothingIssued_elsewhere ?_ ?_)
    · intro behind
      rw [not_behind moved.outside] at behind
      cases behind
    · rintro place
      rw [place] at outside
      cases outside
    · rintro place
      rw [place] at outside
      cases outside
  | cursor place changed =>
    refine iff_of_false (fun uses => unset (uses rfl)) fun nothing => ?_
    exact before.set_issued unset changed ((nothing unset).1 place)
  | clipboard place changed =>
    refine iff_of_false (fun uses => unset (uses rfl)) fun nothing => ?_
    exact before.set_issued unset changed ((nothing unset).2 place)
  | noCursor place clear =>
    refine iff_of_true (fun behind => Bool.noConfusion behind) fun _ => ⟨?_, ?_⟩
    · exact fun _ => before.unset_clear unset clear
    · rw [place]
      exact fun elsewhere => Pc.noConfusion elsewhere
  | noClipboard place clear =>
    refine iff_of_true (fun behind => Bool.noConfusion behind) fun _ => ⟨?_, ?_⟩
    · rw [place]
      exact fun elsewhere => Pc.noConfusion elsewhere
    · exact fun _ => before.unset_clear unset clear
  | frames place display =>
    rw [before.display unset] at display
    cases display
  | read place | noFrames place =>
    refine iff_of_true (fun behind => Bool.noConfusion behind) (nothingIssued_elsewhere ?_ ?_)
    · rw [place]
      exact Pc.noConfusion
    · rw [place]
      exact Pc.noConfusion
  | deliver place | stay place | update place | renew place | lock place | lockEmpty place | announce place
  | noAnnounce place =>
    rw [place] at away
    cases away
  | crash behind =>
    rw [behind] at away
    cases away

/-! ### The callers -/

theorem update_uncleared {k j : Flag} {f : Signal → Signal}
    (keep : (w.signals j).Uncleared → (f (w.signals j)).Uncleared)
    (before : ∀ k, (w.signals k).Uncleared) : ((w.update j f).signals k).Uncleared := by
  by_cases same : k = j
  · subst same
    simpa using keep (before k)
  · simpa [Function.update_of_ne same] using before k

theorem CallerMove.uncleared {k : Flag} (before : ∀ k, (w.signals k).Uncleared)
    (move : CallerMove w e w') : (w'.signals k).Uncleared := by
  cases move with
  | idle | outside => exact before k
  | setCursor | notifyClipboardChanged | queueFrame | notify => exact update_uncleared id before
  | flag => exact update_uncleared (fun _ => iff_of_true rfl (Nat.succ_pos _)) before

theorem CallerMove.uses (before : BeforeStart w) (move : CallerMove w e w') :
    w'.pc.behindFlag = true → w'.mServer = .started := by
  cases move <;> exact before.uses

theorem CallerMove.before (before : BeforeStart w) (move : CallerMove w e w') : BeforeStart w' := by
  have uncleared := fun not k => move.uncleared (k := k) (before.uncleared not)
  have uses := move.uses before
  cases move <;> exact ⟨before.display, uncleared, uses⟩

/-! ### One step and the run -/

theorem step_uses_iff (before : BeforeStart w) : UsesStarted w e ↔ NothingIssued w e := by
  rcases step_cases w e with ⟨caller, move⟩ | ⟨choice, rfl, move⟩
  · refine iff_of_true (move.uses before) ?_
    cases e with
    | loop choice => exact absurd rfl (caller choice)
    | _ => trivial
  · exact move.uses_iff before

/-- Before `start` the loop clears no flag on its way, for behind the flag is `mServer`. -/
theorem LoopMove.before (before : BeforeStart w) (move : LoopMove w w')
    (uses : w'.pc.behindFlag = true → w'.mServer = .started) : BeforeStart w' := by
  by_cases set : w'.mServer = .started
  · exact ⟨fun not => absurd set not, fun not => absurd set not, uses⟩
  have unset : w.mServer ≠ .started := fun started => set (move.started started)
  have display := before.display unset
  have uncleared := before.uncleared unset
  cases move with
  | between outside moved =>
    cases moved with
    | same => exact ⟨fun _ => display, fun _ => uncleared, uses⟩
    | start | renew => exact absurd rfl set
    | stop => exact ⟨fun _ => rfl, fun _ => uncleared, uses⟩
  | cursor | frames | clipboard => exact absurd (uses rfl) set
  | renew _ started => exact absurd started unset
  | _ => exact ⟨fun _ => display, fun _ => uncleared, uses⟩

theorem step_before (before : BeforeStart w) (uses : UsesStarted w e) : BeforeStart (step w e) := by
  rcases step_cases w e with ⟨_, move⟩ | ⟨choice, _, move⟩
  · exact move.before before
  · exact move.before before uses

theorem constructed_before (cur : Cursor) (nonNull : Bool) :
    BeforeStart (World.constructed cur nonNull : World φ) := by
  refine ⟨fun _ => rfl, fun _ k => ?_, ?_⟩
  · exact iff_of_false (fun changed => Bool.noConfusion changed) (Nat.lt_irrefl 0)
  · intro behind
    cases behind

theorem uses_started_along_run {cur : Cursor} {nonNull : Bool} {run : List (Event φ)} :
    Runs.Along step UsesStarted (World.constructed cur nonNull) run ↔
      Runs.Along step NothingIssued (World.constructed cur nonNull) run :=
  Runs.along_iff (constructed_before cur nonNull) (fun _ _ _ before => step_uses_iff before)
    fun _ _ _ before uses => step_before before uses

def earlyCursor : List (Event ℕ) :=
  [.setCursor ⟨16, 16, 0, 0, 4096⟩, .flag .cursor, .notify .cursor, .connect] ++
    iteration.set 3 (.loop (.accept true)) ++ [.loop .next, .loop .next]

/-- A cursor is set before the first client connects, and the client is still handshaking when the
loop processes events. -/
theorem cursor_before_start :
    ¬ Runs.Along step UsesStarted (World.constructed ⟨0, 0, 0, 0, 0⟩ true) earlyCursor ∧
      (earlyCursor.foldl step (World.constructed ⟨0, 0, 0, 0, 0⟩ true)).pc = .crashed := by
  decide

end VncFlinger.Loop
