import VncFlinger.Loop.Moves
import Mathlib.Data.Bool.Basic

/-!
# Queued frames and the looks they will get

A wake-up takes one frame at most. Every queued frame needs a look of its own: a call that will set
the flag, the flag, or `processFrames` about to lock. A call that finds the flag set adds none.
-/

namespace VncFlinger.Loop

variable {φ : Type} {w w' : World φ} {e : Event φ}

/-- In `processFrames`, before it locks a frame. -/
def Pc.looking : Pc → Bool
  | .update | .lock => true
  | _ => false

/-- The looks at the queue that are still to come. -/
def World.looks (w : World φ) : ℕ :=
  (w.signals .frame).storing + (w.signals .frame).changed.toNat + w.pc.looking.toNat

/-- The frame the framebuffer has once the queue is consumed. -/
def World.newest (w : World φ) : Option φ := w.frames.getLast?.or w.framebuffer

structure Displayed (w : World φ) : Prop where
  started : w.mServer = .started
  newest : w.newest = w.lastQueued

/-- What every reachable state has when it has a virtual display. -/
def DisplayedIfAny (w : World φ) : Prop := w.mVirtualDisplay = true → Displayed w

structure SameFrames (w w' : World φ) : Prop where
  frames : w'.frames = w.frames
  framebuffer : w'.framebuffer = w.framebuffer
  lastQueued : w'.lastQueued = w.lastQueued
  mServer : w'.mServer = w.mServer
  mVirtualDisplay : w'.mVirtualDisplay = w.mVirtualDisplay

theorem DisplayedIfAny.congr (before : DisplayedIfAny w) (same : SameFrames w w') : DisplayedIfAny w' := by
  intro display
  obtain ⟨started, newest⟩ := before (same.mVirtualDisplay ▸ display)
  refine ⟨same.mServer.trans started, ?_⟩
  rw [same.lastQueued, ← newest]
  simp only [World.newest, same.frames, same.framebuffer]

theorem Between.displayed (before : DisplayedIfAny w) (moved : Between w w') : DisplayedIfAny w' := by
  cases moved with
  | same => exact before.congr ⟨rfl, rfl, rfl, rfl, rfl⟩
  | start => exact fun display => ⟨rfl, (before display).newest⟩
  | renew => exact fun _ => ⟨rfl, rfl⟩
  | stop =>
    intro display
    cases display

theorem LoopMove.displayed (before : DisplayedIfAny w) (move : LoopMove w w') : DisplayedIfAny w' := by
  cases move with
  | between outside moved => exact moved.displayed before
  | lock place started frame rest queued =>
    intro display
    obtain ⟨_, newest⟩ := before display
    refine ⟨started, ?_⟩
    show rest.getLast?.or (some frame) = w.lastQueued
    rw [← newest, World.newest, queued, List.getLast?_cons]
    cases rest.getLast? <;> rfl
  | stay => exact before
  | renew place started => exact fun _ => ⟨started, rfl⟩
  | read | cursor | noCursor | deliver | frames | noFrames | update | lockEmpty | clipboard | noClipboard
  | announce | noAnnounce | crash => exact before.congr ⟨rfl, rfl, rfl, rfl, rfl⟩

theorem CallerMove.displayed (before : DisplayedIfAny w) (move : CallerMove w e w') :
    DisplayedIfAny w' := by
  cases move with
  | queueFrame frame =>
    intro display
    obtain ⟨started, _⟩ := before display
    refine ⟨started, ?_⟩
    show (w.frames ++ [frame]).getLast?.or w.framebuffer = some frame
    rw [List.getLast?_concat]
    rfl
  | idle | setCursor | notifyClipboardChanged | flag | notify | outside =>
    exact before.congr ⟨rfl, rfl, rfl, rfl, rfl⟩

theorem step_displayed (before : DisplayedIfAny w) (e : Event φ) : DisplayedIfAny (step w e) := by
  rcases step_cases w e with ⟨_, move⟩ | ⟨choice, _, move⟩
  · exact move.displayed before
  · exact move.displayed before

theorem reachable_displayed {cur : Cursor} {nonNull : Bool} {run : List (Event φ)} :
    DisplayedIfAny (run.foldl step (World.constructed cur nonNull)) := by
  refine Runs.foldl_invariant ?_ fun _ e _ before => step_displayed before e
  intro display
  cases display

/-! ### Frames against looks -/

theorem not_looking {pc : Pc} (outside : pc.processing = false) : pc.looking = false := by
  cases pc <;> first | rfl | cases outside

/-- How a step changes the queue and the looks: by the same amount, or a look finds it empty. -/
inductive Account (w w' : World φ) : Prop
  | even (same : w'.frames.length + w.looks = w.frames.length + w'.looks)
  | idle (empty : w.frames = []) (still : w'.frames = [])

/-- The call sets a flag that is still set. -/
def Merges (w : World φ) : Event φ → Prop
  | .flag .frame => 0 < (w.signals .frame).storing ∧ (w.signals .frame).changed = true
  | _ => False

instance (w : World φ) : DecidablePred (Merges w)
  | .flag .frame => inferInstanceAs (Decidable (_ ∧ _))
  | .flag .cursor | .flag .clipboard => inferInstanceAs (Decidable False)
  | .setCursor _ | .notifyClipboardChanged | .queueFrame _ | .notify _ | .quit | .connect | .send _
  | .loop _ => inferInstanceAs (Decidable False)

theorem Account.of_same (frames : w'.frames = w.frames) (looks : w'.looks = w.looks) : Account w w' :=
  .even (by rw [frames, looks])

theorem update_looks {k : Flag} {f : Signal → Signal} (other : k ≠ .frame) :
    (w.update k f).looks = w.looks := by
  simp only [World.looks, World.update_signals, World.update_pc, Function.update_of_ne other.symm]

/-- The virtual display is there, and it is the one that was there before. -/
def KeptDisplay (w w' : World φ) : Prop := w'.mVirtualDisplay = true ∧ w'.displays = w.displays

theorem onBufferDimensionsChanged_other (w : World φ) :
    (onBufferDimensionsChanged w).displays ≠ w.displays := Nat.succ_ne_self _

theorem LoopMove.account (session : Displayed w) (kept : KeptDisplay w w') (move : LoopMove w w') :
    Account w w' := by
  cases move with
  | between outside moved =>
    cases moved with
    | same clients arrivals ready pc after =>
      refine Account.of_same rfl ?_
      simp only [World.looks, not_looking outside, not_looking after]
    | start => exact .of_same rfl rfl
    | renew => exact absurd kept.2 (onBufferDimensionsChanged_other w)
    | stop => cases kept.1
  | frames place _ changed =>
    refine Account.of_same rfl ?_
    simp [World.looks, Pc.looking, place, changed, Signal.clear]
  | renew => exact absurd kept.2 (onBufferDimensionsChanged_other w)
  | lock place _ frame rest queued =>
    apply Account.even
    simp only [World.looks, World.goto_frames, World.goto_signals, World.goto_pc, place, queued,
      List.length_cons, Pc.looking, Bool.toNat_true, Bool.toNat_false]
    omega
  | lockEmpty place empty => exact .idle empty empty
  | crash behind unset => exact absurd session.started unset
  | stay => exact .of_same rfl rfl
  | read place | noCursor place | deliver place | noFrames place | update place | noClipboard place
  | announce place | noAnnounce place =>
    refine Account.of_same rfl ?_
    simp [World.looks, Pc.looking, place]
  | cursor place | clipboard place =>
    refine Account.of_same rfl ?_
    simp [World.looks, Pc.looking, place]

theorem CallerMove.account (alone : ¬ Merges w e) (move : CallerMove w e w') : Account w w' := by
  cases move with
  | idle | outside => exact .of_same rfl rfl
  | setCursor | notifyClipboardChanged => exact .of_same rfl (update_looks (by decide))
  | queueFrame frame =>
    apply Account.even
    simp only [World.looks, World.update_frames, World.update_signals, Function.update_self, Signal.store,
      World.update_pc, List.length_append, List.length_singleton]
    omega
  | flag k storing =>
    by_cases frame : k = .frame
    · subst frame
      have clear : (w.signals .frame).changed = false :=
        Bool.eq_false_iff.mpr fun changed => alone ⟨storing, changed⟩
      refine Account.of_same rfl ?_
      simp only [World.looks, World.update_signals, Function.update_self, Signal.set,
        World.update_pc, clear, Bool.toNat_true, Bool.toNat_false]
      omega
    · exact .of_same rfl (update_looks frame)
  | notify k =>
    by_cases frame : k = .frame
    · subst frame
      exact .of_same rfl (by simp [World.looks, Signal.notified])
    · exact .of_same rfl (update_looks frame)

theorem step_account (session : Displayed w) (kept : KeptDisplay w (step w e)) (alone : ¬ Merges w e) :
    Account w (step w e) := by
  rcases step_cases w e with ⟨_, move⟩ | ⟨choice, _, move⟩
  · exact move.account alone
  · exact move.account session kept

/-- A merged call takes a look away from the queue. -/
theorem merges_loses (merges : Merges w e) :
    (step w e).frames = w.frames ∧ (step w e).looks + 1 = w.looks := by
  unfold Merges at merges
  split at merges
  · obtain ⟨storing, changed⟩ := merges
    have set : step w (.flag .frame) = w.update .frame .set := if_pos storing
    rw [set]
    refine ⟨rfl, ?_⟩
    simp only [World.looks, World.update_signals, Function.update_self, Signal.set, World.update_pc,
      changed]
    omega
  · exact merges.elim

end VncFlinger.Loop
