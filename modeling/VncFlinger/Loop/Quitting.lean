import VncFlinger.Loop.Moves

/-!
# A request to quit and a blocked `select`

`quit` sets `gCaughtSignal` and writes nothing to a descriptor. A request that falls between the
test of the flag and the return of `select` is seen only when something else wakes the loop.
-/

namespace VncFlinger.Loop

variable {φ : Type} {w w' : World φ} {e : Event φ}

/-- Something `select` waits on is readable: the event descriptor, a listener or a client. -/
def World.Readable (w : World φ) : Prop := w.Wakes false false

instance (w : World φ) : Decidable w.Readable := inferInstanceAs (Decidable (w.Wakes false false))

/-- `quit` has completed, and the loop is blocked without a timeout and nothing to wake it. -/
structure World.Stranded (w : World φ) : Prop where
  quit : w.gCaughtSignal = true
  blocked : w.pc = .select false
  silent : ¬ w.Readable

def NotStranded (w : World φ) (e : Event φ) : Prop := ¬ (step w e).Stranded

/-- The request finds the loop outside a silent `select`, and a loop on its way to `select` finds no
request unless it will wait with a timeout or something is readable. -/
def QuitInTime (w : World φ) : Event φ → Prop
  | .quit => w.pc = .select false → w.Readable
  | .loop (.collect false) => w.pc = .collect → w.gCaughtSignal = true → (collectSockets w).Readable
  | _ => True

theorem CallerMove.pc (move : CallerMove w e w') : w'.pc = w.pc := by
  cases move <;> rfl

theorem loopStep_select {choice : Choice} (place : (loopStep w choice).pc = .select false) :
    (w.pc = .collect ∧ choice = .collect false ∧
      loopStep w choice = (collectSockets w).goto (.select false)) ∨
    (w.pc = .select false ∧ loopStep w choice = w) := by
  have follows := loopStep_follows w choice
  rw [place] at follows
  cases here : w.pc with
  | collect =>
    refine Or.inl ⟨rfl, ?_⟩
    simp only [loopStep, here] at place ⊢
    cases choice with
    | collect timed =>
      have same : timed = false := by simpa using place
      subst same
      exact ⟨rfl, rfl⟩
    | _ => exact absurd (here.symm.trans place) (by simp)
  | select timed =>
    rw [here] at follows
    have same : timed = false := by simpa [Pc.Follows] using follows.symm
    subst same
    refine Or.inr ⟨rfl, ?_⟩
    simp only [loopStep, here] at place ⊢
    cases choice with
    | wake interrupted =>
      rcases wake_pc (w := w) false interrupted with same | test | accept
      · exact same
      · cases test.symm.trans place
      · cases accept.symm.trans place
    | _ => rfl
  | _ =>
    rw [here] at follows
    simp [Pc.Follows] at follows

/-- A caller makes nothing silent. -/
theorem caller_readable (caller : ∀ choice, e ≠ .loop choice) (readable : w.Readable) :
    (step w e).Readable := by
  cases e with
  | setCursor | notifyClipboardChanged =>
    simp only [step, setCursor, Loop.notifyClipboardChanged, World.calls]
    split <;> exact readable
  | queueFrame frame =>
    simp only [step, queueFrame]
    split <;> exact readable
  | flag k =>
    simp only [step, setFlag]
    split <;> exact readable
  | notify k =>
    simp only [step, notify]
    split
    · exact Or.inr (Or.inr (Or.inl (written_pos _)))
    · exact readable
  | quit => exact readable
  | connect => exact Or.inr (Or.inr (Or.inr (Or.inl (Nat.succ_pos _))))
  | send i =>
    rcases readable with interrupted | timed | counter | arrivals | ⟨c, member, ready⟩
    · cases interrupted
    · cases timed
    · exact Or.inr (Or.inr (Or.inl counter))
    · exact Or.inr (Or.inr (Or.inr (Or.inl arrivals)))
    · refine Or.inr (Or.inr (Or.inr (Or.inr ?_)))
      obtain ⟨j, found⟩ := List.mem_iff_getElem?.mp member
      refine ⟨if i = j then { c with readable := true } else c, ?_, ?_⟩
      · apply List.mem_iff_getElem?.mpr
        refine ⟨j, ?_⟩
        show (w.clients.modify i _)[j]? = _
        rw [List.getElem?_modify, found]
        split <;> rfl
      · split
        · rfl
        · exact ready
  | loop choice => exact absurd rfl (caller choice)

theorem caller_gCaughtSignal (caller : ∀ choice, e ≠ .loop choice) (other : e ≠ .quit) :
    (step w e).gCaughtSignal = w.gCaughtSignal := by
  cases e with
  | quit => exact absurd rfl other
  | loop choice => exact absurd rfl (caller choice)
  | connect | send => rfl
  | setCursor | notifyClipboardChanged =>
    simp only [step, setCursor, Loop.notifyClipboardChanged, World.calls]
    split <;> rfl
  | queueFrame frame =>
    simp only [step, queueFrame]
    split <;> rfl
  | flag k =>
    simp only [step, setFlag]
    split <;> rfl
  | notify k =>
    simp only [step, notify]
    split <;> rfl

theorem collectSockets_gCaughtSignal : (collectSockets w).gCaughtSignal = w.gCaughtSignal := by
  unfold collectSockets
  simp only
  split <;> rfl

/-- A step of a caller strands the loop only if it is the request itself. -/
theorem caller_not_stranded (free : ¬ w.Stranded) (caller : ∀ choice, e ≠ .loop choice) (other : e ≠ .quit) :
    ¬ (step w e).Stranded := by
  rintro ⟨quit, blocked, silent⟩
  apply free
  refine ⟨?_, ?_, ?_⟩
  · rwa [caller_gCaughtSignal caller other] at quit
  · rwa [(step_caller caller).pc] at blocked
  · exact fun readable => silent (caller_readable caller readable)

theorem quit_not_stranded : ¬ (step w .quit).Stranded ↔ QuitInTime w .quit := by
  constructor
  · intro free blocked
    by_contra silent
    exact free ⟨rfl, blocked, silent⟩
  · rintro inTime ⟨_, blocked, silent⟩
    exact silent (inTime blocked)

theorem loop_not_stranded (free : ¬ w.Stranded) (choice : Choice) :
    ¬ (loopStep w choice).Stranded ↔ QuitInTime w (.loop choice) := by
  constructor
  · intro after
    cases choice with
    | collect timed =>
      cases timed with
      | true => trivial
      | false =>
        intro place quit
        by_contra silent
        have arrived : loopStep w (.collect false) = (collectSockets w).goto (.select false) := by
          simp only [loopStep, place]
        apply after
        rw [arrived]
        exact ⟨collectSockets_gCaughtSignal.trans quit, rfl, silent⟩
    | _ => trivial
  · rintro inTime stranded
    rcases loopStep_select stranded.blocked with ⟨place, rfl, arrived⟩ | ⟨_, same⟩
    · rw [arrived] at stranded
      have quit : w.gCaughtSignal = true := collectSockets_gCaughtSignal.symm.trans stranded.quit
      exact stranded.silent (inTime place quit)
    · rw [same] at stranded
      exact free stranded

theorem not_stranded_step (free : ¬ w.Stranded) (e : Event φ) : NotStranded w e ↔ QuitInTime w e := by
  cases e with
  | quit => exact quit_not_stranded
  | loop choice => exact loop_not_stranded free choice
  | _ => exact iff_of_true (caller_not_stranded free nofun nofun) trivial

/-- No state of a run is stranded exactly when each request comes in time. -/
theorem quit_reaches_loop_iff {cur : Cursor} {nonNull : Bool} {run : List (Event φ)} :
    Runs.Along step NotStranded (World.constructed cur nonNull) run ↔
      Runs.Along step QuitInTime (World.constructed cur nonNull) run := by
  have start : ¬ (World.constructed cur nonNull : World φ).Stranded := fun stranded => nomatch stranded.blocked
  apply Runs.along_iff (I := fun w => ¬ w.Stranded) start
  · exact fun _ e _ free => not_stranded_step free e
  · exact fun _ _ _ _ after => after

/-- The loop has tested the flag and waits when the request comes: nothing wakes it. -/
theorem quit_during_select :
    ([.loop .next, .loop (.collect false), .quit].foldl step
      (World.constructed ⟨0, 0, 0, 0, 0⟩ false : World ℕ)).Stranded :=
  ⟨by decide, by decide, by decide⟩

end VncFlinger.Loop
