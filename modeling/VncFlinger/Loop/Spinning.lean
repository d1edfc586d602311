import VncFlinger.Loop.Wakeups
import VncFlinger.Loop.Quitting

/-!
# A notification that no iteration reads

The event descriptor is read behind the test for an empty client list. What `select` has reported
and the loop has not read yet is tracked beside the world, with the notifications since `select`
returned.
-/

namespace VncFlinger.Loop

variable {φ : Type} {w w' : World φ} {e : Event φ}

/-- `unread`: `select` returned with the event descriptor readable, and nothing has read it since.
`renewed`: a caller has notified since `select` returned. -/
structure Tracked (φ : Type) where
  world : World φ
  unread : Bool := false
  renewed : Bool := false

def World.notifies (w : World φ) : Event φ → Bool
  | .notify k => decide (0 < (w.signals k).notifying)
  | _ => false

/-- `select` returns, and the iteration goes on to the listeners. -/
def World.Returns (w : World φ) (e : Event φ) : Prop := w.pc ≠ .accept ∧ (step w e).pc = .accept

def World.Reads (w : World φ) (e : Event φ) : Prop := w.pc = .read ∧ (step w e).pc ≠ .read

instance (w : World φ) (e : Event φ) : Decidable (w.Returns e) := inferInstanceAs (Decidable (_ ∧ _))

instance (w : World φ) (e : Event φ) : Decidable (w.Reads e) := inferInstanceAs (Decidable (_ ∧ _))

def Tracked.step (t : Tracked φ) (e : Event φ) : Tracked φ :=
  let after := Loop.step t.world e
  if t.world.Returns e then { world := after, unread := decide (0 < after.counter), renewed := false }
  else
    { world := after
      unread := if t.world.Reads e then false else t.unread
      renewed := t.renewed || t.world.notifies e }

@[simp] theorem Tracked.step_world (t : Tracked φ) (e : Event φ) :
    (t.step e).world = Loop.step t.world e := by
  unfold Tracked.step
  simp only
  split <;> rfl

/-- No iteration ends before it has read what `select` reported, and without a notification since
then `select` returns only for a signal, a timer or a socket. -/
structure Tracked.Blocks (t : Tracked φ) : Prop where
  consumed : t.world.pc = .test → t.unread = false
  waits : ∀ timed interrupted, t.world.pc = .select timed → t.renewed = false →
    t.world.Wakes timed interrupted → interrupted ∨ timed ∨ 0 < t.world.arrivals ∨
      ∃ c ∈ t.world.clients, c.readable

def NeverSpins (t : Tracked φ) (e : Event φ) : Prop := (t.step e).Blocks

/-- When `select` reported the event descriptor, a client is there once the listeners were served. -/
def FindsClient (t : Tracked φ) : Event φ → Prop
  | .loop (.accept connected) => t.world.pc = .accept → t.unread = true →
      t.world.clients ≠ [] ∨ t.world.ready = true ∧ connected = true
  | _ => True

/-- Between the return of `select` and the read of the descriptor. -/
def Pc.serving : Pc → Bool
  | .accept | .process | .read => true
  | _ => false

structure Tracked.Sound (t : Tracked φ) : Prop where
  place : t.unread = true → t.world.pc.serving = true
  counted : 0 < t.world.counter → t.renewed = true ∨ t.unread = true

theorem caller_counter (caller : ∀ choice, e ≠ .loop choice) (silent : w.notifies e = false) :
    (step w e).counter = w.counter := by
  cases e with
  | loop choice => exact absurd rfl (caller choice)
  | connect | send | quit => rfl
  | setCursor | notifyClipboardChanged =>
    simp only [step, setCursor, Loop.notifyClipboardChanged, World.calls]
    split <;> rfl
  | queueFrame frame =>
    simp only [step, queueFrame]
    split <;> rfl
  | flag k =>
    simp only [step, setFlag]
    split <;> rfl
  | notify k =>
    have idle : ¬ 0 < (w.signals k).notifying := of_decide_eq_false silent
    simp only [step, notify, if_neg idle]

theorem LoopMove.counter (move : LoopMove w w') : w'.counter = w.counter ∨ w'.counter = 0 := by
  cases move with
  | between _ moved => exact Or.inl moved.data.counter
  | read => exact Or.inr rfl
  | _ => exact Or.inl rfl

theorem step_counter (silent : w.notifies e = false) :
    (step w e).counter = w.counter ∨ (step w e).counter = 0 := by
  rcases step_cases w e with ⟨caller, _⟩ | ⟨choice, _, move⟩
  · exact Or.inl (caller_counter caller silent)
  · exact move.counter

theorem reads_counter (reads : w.Reads e) : (step w e).counter = 0 := by
  obtain ⟨place, away⟩ := reads
  rcases step_cases w e with ⟨_, move⟩ | ⟨choice, rfl, _⟩
  · exact absurd (move.pc.trans place) away
  · simp only [step, loopStep, place, readCounter]
    split
    · rfl
    · show w.counter = 0
      omega

theorem acceptClient_test {connected : Bool} :
    (acceptClient connected w).pc = .test ↔ ¬ (w.clients ≠ [] ∨ w.ready = true ∧ connected = true) := by
  unfold acceptClient
  by_cases arrived : w.ready = true
  · cases connected <;> cases w.clients <;> simp [arrived]
  · cases clients : w.clients <;> simp [arrived, clients]

/-- The loop comes from a place that serves to the test only past an empty client list or the read. -/
theorem early_exit (serving : w.pc.serving = true) (reads : ¬ w.Reads e) (ends : (step w e).pc = .test) :
    w.pc = .accept ∧ ∃ connected, e = .loop (.accept connected) ∧ (acceptClient connected w).pc = .test := by
  rcases step_cases w e with ⟨_, move⟩ | ⟨choice, rfl, _⟩
  · rw [← move.pc, ends] at serving
    cases serving
  · have follows := loopStep_follows w choice
    rw [show (loopStep w choice).pc = .test from ends] at follows
    cases place : w.pc with
    | accept =>
      refine ⟨rfl, ?_⟩
      simp only [step, loopStep, place] at ends
      cases choice with
      | accept connected => exact ⟨connected, rfl, ends⟩
      | _ => exact absurd (place.symm.trans ends) (by simp)
    | process =>
      rw [place] at follows
      simp [Pc.Follows] at follows
    | read => exact absurd ⟨place, by rw [ends]; simp⟩ reads
    | _ =>
      rw [place] at serving
      cases serving

/-! ### One step -/

variable {t : Tracked φ}

theorem unread_step (away : ¬ t.world.Returns e) :
    (t.step e).unread = true ↔ ¬ t.world.Reads e ∧ t.unread = true := by
  simp only [Tracked.step, if_neg away]
  split <;> simp [*]

theorem consumed_iff_finds (sound : t.Sound) (e : Event φ) :
    ((t.step e).world.pc = .test → (t.step e).unread = false) ↔ FindsClient t e := by
  constructor
  · intro consumed
    cases e with
    | loop choice =>
      cases choice with
      | accept connected =>
        intro place unread
        by_contra none
        have ends : (step t.world (.loop (.accept connected))).pc = .test := by
          simp only [step, loopStep, place]
          exact acceptClient_test.mpr none
        have away : ¬ t.world.Returns (.loop (.accept connected)) := fun returns => returns.1 place
        have kept : (t.step (.loop (.accept connected))).unread = true :=
          (unread_step away).mpr ⟨fun reads => absurd (place.symm.trans reads.1) (by simp), unread⟩
        rw [Tracked.step_world] at consumed
        exact absurd (kept.symm.trans (consumed ends)) (by simp)
      | _ => trivial
    | _ => trivial
  · intro finds ends
    rw [Tracked.step_world] at ends
    have away : ¬ t.world.Returns e := fun returns => absurd (ends.symm.trans returns.2) (by simp)
    by_contra kept
    obtain ⟨reads, unread⟩ := (unread_step away).mp (by simpa using kept)
    obtain ⟨place, connected, rfl, none⟩ := early_exit (sound.place unread) reads ends
    exact acceptClient_test.mp none (finds place unread)

theorem serving_step (serving : w.pc.serving = true) (reads : ¬ w.Reads e)
    (goes_on : (step w e).pc ≠ .test) : (step w e).pc.serving = true := by
  rcases step_cases w e with ⟨_, move⟩ | ⟨choice, rfl, _⟩
  · rwa [move.pc]
  · have follows := loopStep_follows w choice
    cases place : w.pc with
    | accept =>
      rw [place] at follows
      rcases follows with after | after | after
      · exact congrArg Pc.serving after
      · exact absurd after goes_on
      · exact congrArg Pc.serving after
    | process =>
      rw [place] at follows
      rcases follows with after | after
      · exact congrArg Pc.serving after
      · exact congrArg Pc.serving after
    | read =>
      have stays : (step w (.loop choice)).pc = .read := by
        by_contra moved
        exact reads ⟨place, moved⟩
      exact congrArg Pc.serving stays
    | _ =>
      rw [place] at serving
      cases serving

theorem sound_step (sound : t.Sound) (consumed : (t.step e).world.pc = .test → (t.step e).unread = false) :
    (t.step e).Sound := by
  by_cases returns : t.world.Returns e
  · have same : t.step e = ⟨step t.world e, decide (0 < (step t.world e).counter), false⟩ := by
      simp only [Tracked.step, if_pos returns]
    rw [same]
    exact ⟨fun _ => congrArg Pc.serving returns.2, fun counted => Or.inr (decide_eq_true counted)⟩
  · refine ⟨?_, ?_⟩
    · intro unread
      obtain ⟨reads, before⟩ := (unread_step returns).mp unread
      rw [Tracked.step_world]
      apply serving_step (sound.place before) reads
      intro ends
      rw [Tracked.step_world] at consumed
      exact absurd (unread.symm.trans (consumed ends)) (by simp)
    · intro counted
      rw [Tracked.step_world] at counted
      have renewed : (t.step e).renewed = (t.renewed || t.world.notifies e) := by
        simp only [Tracked.step, if_neg returns]
      cases rings : t.world.notifies e with
      | true => exact Or.inl (by simp [renewed, rings])
      | false =>
        have unread : ¬ t.world.Reads e := fun reads => by
          have empty := reads_counter reads
          omega
        rcases step_counter rings with same | empty
        · rcases sound.counted (by omega) with still | before
          · exact Or.inl (by simp [renewed, still])
          · exact Or.inr ((unread_step returns).mpr ⟨unread, before⟩)
        · omega

theorem Tracked.Sound.blocks (sound : t.Sound) (consumed : t.world.pc = .test → t.unread = false) :
    t.Blocks := by
  refine ⟨consumed, ?_⟩
  intro timed interrupted place still wakes
  have read : t.unread = false := by
    by_contra unread
    have serving := sound.place (by simpa using unread)
    rw [place] at serving
    cases serving
  have empty : ¬ 0 < t.world.counter := fun counted => by
    rcases sound.counted counted with renewed | unread
    · rw [still] at renewed
      cases renewed
    · rw [read] at unread
      cases unread
  rcases wakes with signal | timer | counted | arrived | ready
  · exact Or.inl signal
  · exact Or.inr (Or.inl timer)
  · exact absurd counted empty
  · exact Or.inr (Or.inr (Or.inl arrived))
  · exact Or.inr (Or.inr (Or.inr ready))

theorem never_spins_step (sound : t.Sound) (e : Event φ) : NeverSpins t e ↔ FindsClient t e := by
  rw [← consumed_iff_finds sound e]
  constructor
  · exact fun blocks => blocks.consumed
  · exact fun consumed => (sound_step sound consumed).blocks consumed

/-! ### The whole run -/

def Tracked.constructed (cur : Cursor) (nonNull : Bool) : Tracked φ :=
  { world := World.constructed cur nonNull }

/-- The loop reads what `select` reports, in every iteration of a run, exactly when each iteration
that the event descriptor woke finds a client. -/
theorem notification_consumed_iff {cur : Cursor} {nonNull : Bool} {run : List (Event φ)} :
    Runs.Along Tracked.step NeverSpins (Tracked.constructed cur nonNull) run ↔
      Runs.Along Tracked.step FindsClient (Tracked.constructed cur nonNull) run := by
  have start : (Tracked.constructed cur nonNull : Tracked φ).Sound :=
    ⟨fun unread => (nomatch unread), fun counted => (nomatch counted)⟩
  apply Runs.along_iff start
  · exact fun _ e _ sound => never_spins_step sound e
  · exact fun _ _ _ sound spins => sound_step sound spins.consumed

/-- An iteration without a client, up to the test of the client list. -/
def clientless : List (Event φ) :=
  [.loop .next, .loop (.collect false), .loop (.wake false), .loop (.accept false)]

def cursorBeforeClient : List (Event ℕ) :=
  [.setCursor ⟨16, 16, 0, 0, 4096⟩, .flag .cursor, .notify .cursor]

/-- A cursor is set while nobody is connected: the iteration ends without the read, and the next
`select` returns at once, with no notification since. -/
theorem notification_left_unread :
    let start : Tracked ℕ := Tracked.constructed ⟨0, 0, 0, 0, 0⟩ false
    let once := (cursorBeforeClient ++ clientless).foldl Tracked.step start
    let again := clientless.foldl Tracked.step once
    ¬ NeverSpins ((cursorBeforeClient ++ clientless.take 3).foldl Tracked.step start) (.loop (.accept false)) ∧
      once.world.pc = .test ∧ once.unread = true ∧ once.renewed = false ∧
      again.world.pc = .test ∧ again.unread = true ∧ again.world.counter = once.world.counter := by
  refine ⟨fun blocks => ?_, by decide, by decide, by decide, by decide, by decide, by decide⟩
  have consumed := blocks.consumed (by decide)
  revert consumed
  decide

end VncFlinger.Loop
