import VncFlinger.Loop.Backlog

/-!
# The order of the frames

The frames of a virtual display are shown in the order they were queued, each at most once. A resize of
the buffer brings another display and queue, in a session as well as with the next one. What is left
waiting when all is quiet is no more than the calls that merged.
-/

namespace VncFlinger.Loop

variable {φ : Type} {w w' : World φ} {e : Event φ}

/-- With the frames queued to the virtual display and those put into the framebuffer since the latest one
was created. -/
structure History (φ : Type) where
  world : World φ
  queued : List φ := []
  shown : List φ := []

def queuedBy (w : World φ) : Event φ → List φ
  | .queueFrame frame => if w.mVirtualDisplay then [frame] else []
  | _ => []

def shownBy (w : World φ) : Event φ → List φ
  | .loop _ => if w.pc = .lock ∧ w.mServer = .started then w.frames.head?.toList else []
  | _ => []

def record (h : History φ) (e : Event φ) : History φ :=
  let after := step h.world e
  if after.displays ≠ h.world.displays then { world := after }
  else { world := after, queued := h.queued ++ queuedBy h.world e, shown := h.shown ++ shownBy h.world e }

structure Ordered (h : History φ) : Prop where
  earlier : h.shown <+: h.queued
  waiting : h.world.mVirtualDisplay = true → h.queued = h.shown ++ h.world.frames
  latest : h.world.mVirtualDisplay = true → h.world.framebuffer = h.shown.getLast?
  empty : h.world.mVirtualDisplay = false → h.world.frames = []

/-- What a step does to the frames: they are queued behind the others and taken from the front, or the
virtual display is another one or gone. -/
inductive FrameStep (w : World φ) (e : Event φ) (w' : World φ) : Prop
  | kept (same : w'.displays = w.displays) (display : w'.mVirtualDisplay = w.mVirtualDisplay)
      (frames : w.frames ++ queuedBy w e = shownBy w e ++ w'.frames)
      (framebuffer : w'.framebuffer = (shownBy w e).getLast?.or w.framebuffer)
  | created (other : w'.displays ≠ w.displays) (display : w'.mVirtualDisplay = true) (frames : w'.frames = [])
      (framebuffer : w'.framebuffer = none)
  | gone (same : w'.displays = w.displays) (display : w'.mVirtualDisplay = false) (frames : w'.frames = [])
      (queued : queuedBy w e = []) (shown : shownBy w e = [])

theorem shownBy_elsewhere (choice : Choice) (elsewhere : w.pc ≠ .lock) : shownBy w (.loop choice) = [] :=
  if_neg fun both => elsewhere both.1

theorem FrameStep.of_same (same : w'.displays = w.displays)
    (display : w'.mVirtualDisplay = w.mVirtualDisplay) (frames : w'.frames = w.frames)
    (framebuffer : w'.framebuffer = w.framebuffer) (queued : queuedBy w e = []) (shown : shownBy w e = []) :
    FrameStep w e w' := by
  refine .kept same display ?_ ?_
  · rw [queued, shown, frames, List.append_nil, List.nil_append]
  · rw [shown, framebuffer]
    rfl

theorem LoopMove.frameStep {choice : Choice} (move : LoopMove w w') : FrameStep w (.loop choice) w' := by
  have elsewhere := shownBy_elsewhere (w := w) choice
  cases move with
  | between outside moved =>
    have away : shownBy w (.loop choice) = [] := by
      apply elsewhere
      intro place
      rw [place] at outside
      cases outside
    cases moved with
    | same | start => exact .of_same rfl rfl rfl rfl rfl away
    | renew => exact .created (onBufferDimensionsChanged_other w) rfl rfl rfl
    | stop => exact .gone rfl rfl rfl rfl away
  | renew => exact .created (onBufferDimensionsChanged_other w) rfl rfl rfl
  | lock place started frame rest queued =>
    have shown : shownBy w (.loop choice) = [frame] := by
      rw [shownBy, if_pos ⟨place, started⟩, queued]
      rfl
    refine .kept rfl rfl ?_ ?_
    · rw [shown, queued]
      exact List.append_nil _
    · rw [shown]
      rfl
  | lockEmpty place empty =>
    have shown : shownBy w (.loop choice) = [] := by
      rw [shownBy, empty]
      exact ite_self _
    exact .of_same rfl rfl rfl rfl rfl shown
  | crash behind unset => exact .of_same rfl rfl rfl rfl rfl (if_neg fun both => unset both.2)
  | read place | cursor place | noCursor place | deliver place | frames place | noFrames place
  | stay place | update place | clipboard place | noClipboard place | announce place | noAnnounce place =>
    exact .of_same rfl rfl rfl rfl rfl (elsewhere (by rw [place]; decide))

theorem CallerMove.frameStep (other : ∀ frame, e ≠ .queueFrame frame) (caller : ∀ choice, e ≠ .loop choice)
    (move : CallerMove w e w') : FrameStep w e w' := by
  have queued : queuedBy w e = [] := by
    cases e with
    | queueFrame frame => exact absurd rfl (other frame)
    | _ => rfl
  have shown : shownBy w e = [] := by
    cases e with
    | loop choice => exact absurd rfl (caller choice)
    | _ => rfl
  cases move with
  | queueFrame frame => exact absurd rfl (other frame)
  | idle | setCursor | notifyClipboardChanged | flag | notify | outside =>
    exact .of_same rfl rfl rfl rfl queued shown

theorem queueFrame_frameStep (frame : φ) : FrameStep w (.queueFrame frame) (queueFrame frame w) := by
  unfold queueFrame
  split
  · next display =>
    refine .kept rfl rfl ?_ rfl
    rw [queuedBy, if_pos display]
    rfl
  · next none =>
    exact .of_same rfl rfl rfl rfl (if_neg none) rfl

theorem step_frameStep (w : World φ) (e : Event φ) : FrameStep w e (step w e) := by
  by_cases queues : ∃ frame, e = .queueFrame frame
  · obtain ⟨frame, rfl⟩ := queues
    exact queueFrame_frameStep frame
  · rcases step_cases w e with ⟨caller, move⟩ | ⟨choice, rfl, move⟩
    · exact move.frameStep (fun frame same => queues ⟨frame, same⟩) caller
    · exact move.frameStep

theorem queuedBy_none (none : w.mVirtualDisplay = false) : queuedBy w e = [] := by
  cases e with
  | queueFrame frame =>
    rw [queuedBy, none]
    rfl
  | _ => rfl

theorem record_ordered {h : History φ} (ordered : Ordered h) (e : Event φ) : Ordered (record h e) := by
  obtain ⟨earlier, waiting, latest, empty⟩ := ordered
  cases step_frameStep h.world e with
  | created other display frames framebuffer =>
    have fresh : record h e = { world := step h.world e } := if_pos other
    rw [fresh]
    refine ⟨List.prefix_rfl, fun _ => frames.symm, fun _ => framebuffer, fun none => ?_⟩
    rw [display] at none
    cases none
  | gone same display frames queued shown =>
    have alone : record h e = { h with world := step h.world e } := by
      simp [record, same, queued, shown]
    rw [alone]
    refine ⟨earlier, ?_, ?_, fun _ => frames⟩
    all_goals
      intro there
      rw [display] at there
      cases there
  | kept same display frames framebuffer =>
    have more : record h e = { world := step h.world e, queued := h.queued ++ queuedBy h.world e
                               shown := h.shown ++ shownBy h.world e } := by
      simp [record, same]
    rw [more]
    cases there : h.world.mVirtualDisplay with
    | true =>
      have all : h.queued ++ queuedBy h.world e = h.shown ++ shownBy h.world e ++ (step h.world e).frames := by
        rw [waiting there, List.append_assoc, frames, List.append_assoc]
      refine ⟨⟨_, all.symm⟩, fun _ => all, fun _ => ?_, fun none => ?_⟩
      · rw [framebuffer, latest there, List.getLast?_append]
      · rw [display, there] at none
        cases none
    | false =>
      rw [empty there, queuedBy_none there, List.append_nil] at frames
      obtain ⟨shown, left⟩ := List.append_eq_nil_iff.mp frames.symm
      rw [queuedBy_none there, shown, List.append_nil, List.append_nil]
      refine ⟨earlier, ?_, ?_, fun _ => left⟩
      all_goals
        intro still
        rw [display, there] at still
        cases still

/-- In every run, the frames shown since the virtual display was created are the first of those queued to
it, in order and each once; the others are the ones that wait. -/
theorem frames_shown_in_order (cur : Cursor) (nonNull : Bool) (run : List (Event φ)) :
    Ordered (run.foldl record { world := World.constructed cur nonNull }) := by
  have start : Ordered ({ world := World.constructed cur nonNull } : History φ) :=
    ⟨List.prefix_rfl, fun _ => rfl, fun _ => rfl, fun _ => rfl⟩
  exact Runs.foldl_invariant start fun _ e _ ordered => record_ordered ordered e

/-- A client's layout replaces the display while a frame waits: queue and account begin anew. -/
def relaidOut : History ℕ :=
  (arrival 1 ++ [Event.send 0] ++ iteration.set 4 (.loop (.serve (.layout true false))) ++ arrival 2).foldl record
    { world := onDisplay }

example : relaidOut.world.displays = 2 ∧ relaidOut.queued = [2] ∧ relaidOut.shown = [] ∧
    relaidOut.world.frames = [2] := by
  decide

/-! ### How many wait -/

/-- The calls of a run that merged with an earlier one. -/
def merged : World φ → List (Event φ) → ℕ
  | _, [] => 0
  | w, e :: rest => (if Merges w e then 1 else 0) + merged (step w e) rest

theorem backlog_step {n : ℕ} (session : Displayed w) (display : KeepsDisplay w e)
    (backlog : w.frames.length ≤ w.looks + n) :
    (step w e).frames.length ≤ (step w e).looks + (n + if Merges w e then 1 else 0) := by
  by_cases merges : Merges w e
  · obtain ⟨frames, looks⟩ := merges_loses merges
    rw [if_pos merges, frames]
    omega
  · rw [if_neg merges]
    rcases step_account session display merges with same | ⟨_, still⟩
    · omega
    · simp [still]

theorem backlog_run {run : List (Event φ)} {n : ℕ} (session : OnDisplay w)
    (keeps : Runs.Along step KeepsDisplay w run) (backlog : w.frames.length ≤ w.looks + n) :
    (run.foldl step w).frames.length ≤ (run.foldl step w).looks + (n + merged w run) := by
  induction run generalizing w n with
  | nil => exact backlog
  | cons e rest ih =>
    have here := backlog_step session.displayed keeps.1 backlog
    rw [List.foldl_cons, merged, ← Nat.add_assoc n]
    exact ih (session.step keeps.1) keeps.2 here

/-- While the virtual display stays, the frames left waiting when all is quiet are no more than the calls
that merged. -/
theorem backlog_at_most_merged {run : List (Event φ)} (reached : Reached w) (display : w.mVirtualDisplay = true)
    (empty : w.frames = []) (keeps : Runs.Along step KeepsDisplay w run)
    (quiet : FramesQuiet (run.foldl step w)) : (run.foldl step w).frames.length ≤ merged w run := by
  have session : OnDisplay w := by
    obtain ⟨cur, nonNull, before, rfl⟩ := reached
    exact ⟨display, reachable_displayed display⟩
  have backlog := backlog_run (n := 0) session keeps (by rw [empty]; exact Nat.zero_le _)
  rw [quiet.looks] at backlog
  omega

/-- One of three frames waits for the one call that merged. -/
theorem backlog_at_most_merged_three :
    ((arrival 1 ++ arrival 2 ++ frameIteration ++ arrival 3 ++ frameIteration).foldl step onDisplay).frames.length
      ≤ merged onDisplay (arrival 1 ++ arrival 2 ++ frameIteration ++ arrival 3 ++ frameIteration) :=
  backlog_at_most_merged ⟨_, _, _, rfl⟩ (by decide) (by decide) (by decide)
    ⟨by decide, by decide, by decide, by decide, by decide⟩

end VncFlinger.Loop
