import VncFlinger.Loop.Frames

/-!
# When a backlog of frames remains

While the virtual display stays, the queue is consumed exactly when no call merged with an earlier
one that the loop had not taken up.
-/

namespace VncFlinger.Loop

variable {φ : Type} {w : World φ} {e : Event φ} {run : List (Event φ)}

def Reached (w : World φ) : Prop :=
  ∃ (cur : Cursor) (nonNull : Bool) (run : List (Event φ)),
    run.foldl step (World.constructed cur nonNull) = w

def KeepsDisplay (w : World φ) (e : Event φ) : Prop := KeptDisplay w (step w e)

/-- A call that merges leaves a look for every queued frame. After a display was replaced an old
flag may give one too many. -/
def LeavesLooks (w : World φ) (e : Event φ) : Prop := Merges w e → w.frames.length < w.looks

instance (w : World φ) (e : Event φ) : Decidable (KeepsDisplay w e) :=
  inferInstanceAs (Decidable (_ ∧ _))

instance (w : World φ) (e : Event φ) : Decidable (LeavesLooks w e) :=
  inferInstanceAs (Decidable (_ → _))

/-- No notification is pending and neither side is in the middle of its steps. -/
structure FramesQuiet (w : World φ) : Prop where
  counter : w.counter = 0
  clear : (w.signals .frame).changed = false
  storing : (w.signals .frame).storing = 0
  notifying : (w.signals .frame).notifying = 0
  outside : w.pc.looking = false

def Consumed (w : World φ) : Prop := w.frames = [] ∧ w.framebuffer = w.lastQueued

def LooksSuffice (w : World φ) : Prop := w.frames.length ≤ w.looks

theorem FramesQuiet.looks (quiet : FramesQuiet w) : w.looks = 0 := by
  simp [World.looks, quiet.clear, quiet.storing, quiet.outside]

theorem looks_suffice_step (session : Displayed w) (display : KeepsDisplay w e)
    (suffice : LooksSuffice w) : LooksSuffice (step w e) ↔ LeavesLooks w e := by
  unfold LooksSuffice at *
  by_cases merges : Merges w e
  · obtain ⟨frames, looks⟩ := merges_loses merges
    rw [frames]
    constructor
    · intro still _
      omega
    · intro leaves
      have room := leaves merges
      omega
  · refine iff_of_true ?_ fun merged => absurd merged merges
    rcases step_account session display merges with same | ⟨_, still⟩
    · omega
    · simp [still]

/-- Once frames outnumber the looks, they do until the display is gone. -/
theorem backlog_stays (session : Displayed w) (display : KeepsDisplay w e)
    (backlog : ¬ LooksSuffice w) : ¬ LooksSuffice (step w e) := by
  unfold LooksSuffice at *
  by_cases merges : Merges w e
  · obtain ⟨frames, looks⟩ := merges_loses merges
    rw [frames]
    omega
  · rcases step_account session display merges with same | ⟨empty, _⟩
    · omega
    · simp [empty] at backlog

theorem consumed_iff (session : Displayed w) (quiet : FramesQuiet w) :
    Consumed w ↔ LooksSuffice w := by
  rw [LooksSuffice, quiet.looks, Nat.le_zero, List.length_eq_zero_iff]
  constructor
  · exact And.left
  · intro empty
    refine ⟨empty, ?_⟩
    have newest := session.newest
    rw [World.newest, empty] at newest
    exact newest

structure OnDisplay (w : World φ) : Prop where
  display : w.mVirtualDisplay = true
  displayed : Displayed w

theorem OnDisplay.step (here : OnDisplay w) (stays : KeepsDisplay w e) : OnDisplay (Loop.step w e) :=
  ⟨stays.1, step_displayed (fun _ => here.displayed) e stays.1⟩

theorem frames_consumed_iff (reached : Reached w) (display : w.mVirtualDisplay = true)
    (empty : w.frames = []) (keeps : Runs.Along step KeepsDisplay w run)
    (quiet : FramesQuiet (run.foldl step w)) :
    Consumed (run.foldl step w) ↔ Runs.Along step LeavesLooks w run := by
  have session : OnDisplay w := by
    obtain ⟨cur, nonNull, before, rfl⟩ := reached
    exact ⟨display, reachable_displayed display⟩
  have ended : OnDisplay (run.foldl step w) :=
    Runs.foldl_invariant_along session keeps fun _ _ stays here => here.step stays
  rw [consumed_iff ended.displayed quiet]
  have suffice : LooksSuffice w := by simp [LooksSuffice, empty]
  refine (Runs.along_iff_end session suffice keeps ?_ ?_ ?_).symm
  · exact fun _ _ here stays => here.step stays
  · exact fun _ _ here stays before => looks_suffice_step here.displayed stays before
  · exact fun _ _ here stays backlog => backlog_stays here.displayed stays backlog

def arrival (frame : φ) : List (Event φ) := [.queueFrame frame, .flag .frame, .notify .frame]

/-- One iteration with a notification for the frames only. -/
def frameIteration : List (Event φ) := iteration ++
  [.loop .next, .loop .next, .loop (.update false), .loop .next, .loop .next]

def onDisplay : World ℕ := firstClient.foldl step (World.constructed ⟨0, 0, 0, 0, 0⟩ true)

theorem frames_consumed_two_rounds :
    Consumed ((arrival 1 ++ frameIteration ++ arrival 2 ++ frameIteration).foldl step onDisplay) ↔
      Runs.Along step LeavesLooks onDisplay (arrival 1 ++ frameIteration ++ arrival 2 ++ frameIteration) :=
  frames_consumed_iff ⟨_, _, _, rfl⟩ (by decide) (by decide) (by decide)
    ⟨by decide, by decide, by decide, by decide, by decide⟩

/-- Two frames arrive within one iteration: the second stays queued when all is quiet. -/
theorem second_frame_left : ∃ run : List (Event ℕ),
    Reached onDisplay ∧ onDisplay.frames = [] ∧ Runs.Along step KeepsDisplay onDisplay run ∧
      FramesQuiet (run.foldl step onDisplay) ∧ (run.foldl step onDisplay).frames = [2] ∧
      (run.foldl step onDisplay).framebuffer = some 1 ∧ (run.foldl step onDisplay).lastQueued = some 2 :=
  ⟨arrival 1 ++ arrival 2 ++ frameIteration, ⟨_, _, _, rfl⟩, by decide, by decide,
    ⟨by decide, by decide, by decide, by decide, by decide⟩, by decide, by decide, by decide⟩

end VncFlinger.Loop
