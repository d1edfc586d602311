import VncFlinger.Library.Runs
import VncFlinger.Audio.Streamer

/-!
# A stop request and the start it was meant for

`audio_main` sets `gRunning` when the spawned thread gets there, and `endAudioStreamer` clears it.
The steps of the service and of its audio threads may come in any order.
-/

namespace VncFlinger.Audio

/-- Where an audio thread is: `acceptTest` and `recordTest` are the tests of `gRunning`, `accepting`
and `recording` the rounds behind them. -/
inductive Place where
  | spawned | parsing | creating | acceptTest | accepting | initialising | recordTest | recording | ended
  deriving DecidableEq, Repr

inductive Answer where
  | next
  | parsed (ok : Bool)
  | created (sock : ℤ)
  | accepted (sock_n : ℤ)
  | initialised (ok : Bool)
  | round (r : Round)
  deriving DecidableEq, Repr

/-- An answer that is not of the place does nothing. -/
def Place.advance (gRunning : Bool) : Place → Answer → Place
  | .spawned, _ => .parsing
  | .parsing, .parsed ok => if ok then .creating else .ended
  | .creating, .created sock => if sock ≤ 0 then .ended else .acceptTest
  | .acceptTest, _ => if gRunning then .accepting else .ended
  | .accepting, .accepted sock_n => if 0 < sock_n then .initialising else .acceptTest
  | .initialising, .initialised ok => if ok then .recordTest else .acceptTest
  | .recordTest, _ => if gRunning then .recording else .acceptTest
  | .recording, .round r => if r.iReadLen ≤ 0 ∨ r.sent = true then .recordTest else .acceptTest
  | place, _ => place

/-- `stopRequested`: `endAudioStreamer` was called, and no thread was spawned since. -/
structure Threads where
  gRunning : Bool := false
  audio : List Place := []
  stopRequested : Bool := false
  deriving DecidableEq, Repr

inductive Step where
  | spawn
  | endAudioStreamer
  | thread (i : ℕ) (answer : Answer)
  deriving DecidableEq, Repr

/-- The first thing a spawned thread does is to set `gRunning`. -/
def Threads.run (s : Threads) (i : ℕ) (answer : Answer) : Threads :=
  match s.audio[i]? with
  | none => s
  | some place =>
    { s with
      gRunning := if place = .spawned then true else s.gRunning
      audio := s.audio.set i (place.advance s.gRunning answer) }

def Threads.step (s : Threads) : Step → Threads
  | .spawn => { s with audio := s.audio ++ [.spawned], stopRequested := false }
  | .endAudioStreamer => { s with gRunning := false, stopRequested := true }
  | .thread i answer => s.run i answer

def Place.tests : Place → Bool
  | .acceptTest | .recordTest => true
  | _ => false

def Place.inRound : Place → Bool
  | .accepting | .recording => true
  | _ => false

/-- A thread goes from the test of one of its loops into another round. -/
def StartsRound (s : Threads) : Step → Prop
  | .thread i answer => ∃ place, s.audio[i]? = some place ∧ place.tests = true ∧
      (place.advance s.gRunning answer).inRound = true
  | _ => False

/-- After a stop request `gRunning` is clear and no loop starts a round. -/
def Stopped (s : Threads) (e : Step) : Prop :=
  (s.step e).stopRequested = true → (s.step e).gRunning = false ∧ ¬ StartsRound s e

/-- A thread enters `audio_main` before it is asked to stop. -/
def EntersInTime (s : Threads) : Step → Prop
  | .thread i _ => s.audio[i]? = some .spawned → s.stopRequested = false
  | _ => True

variable {s : Threads} {e : Step}

theorem round_running {gRunning : Bool} {place : Place} {answer : Answer} (tests : place.tests = true)
    (round : (place.advance gRunning answer).inRound = true) : gRunning = true := by
  cases gRunning with
  | true => rfl
  | false => cases place <;> simp_all [Place.tests, Place.advance, Place.inRound]

theorem StartsRound.running (starts : StartsRound s e) : s.gRunning = true := by
  cases e with
  | thread i answer =>
    obtain ⟨place, _, tests, round⟩ := starts
    exact round_running tests round
  | _ => exact absurd starts id

theorem run_stopRequested (i : ℕ) (answer : Answer) : (s.run i answer).stopRequested = s.stopRequested := by
  unfold Threads.run
  split <;> rfl

theorem run_gRunning (i : ℕ) (answer : Answer) :
    (s.run i answer).gRunning = if s.audio[i]? = some .spawned then true else s.gRunning := by
  unfold Threads.run
  cases s.audio[i]? with
  | none => simp
  | some place => simp

def InForce (s : Threads) : Prop := s.stopRequested = true → s.gRunning = false

theorem stopped_iff (inForce : InForce s) (e : Step) : Stopped s e ↔ EntersInTime s e := by
  cases e with
  | spawn => exact iff_of_true (fun requested => nomatch requested) trivial
  | endAudioStreamer => exact iff_of_true (fun _ => ⟨rfl, id⟩) trivial
  | thread i answer =>
    simp only [Stopped, EntersInTime, Threads.step, run_stopRequested, run_gRunning]
    constructor
    · intro stopped entering
      by_contra requested
      have clear := (stopped (by simpa using requested)).1
      rw [if_pos entering] at clear
      cases clear
    · intro inTime requested
      have entered : ¬ s.audio[i]? = some .spawned := fun entering => by
        rw [inTime entering] at requested
        cases requested
      rw [if_neg entered]
      refine ⟨inForce requested, fun starts => ?_⟩
      have running := starts.running
      rw [inForce requested] at running
      cases running

/-- In every interleaving the requests are respected exactly when each thread enters before its
request. -/
theorem stop_respected_iff (run : List Step) :
    Runs.Along Threads.step Stopped {} run ↔ Runs.Along Threads.step EntersInTime {} run := by
  have start : InForce {} := nofun
  apply Runs.along_iff start
  · exact fun _ e _ inForce => stopped_iff inForce e
  · exact fun _ _ _ _ stopped requested => (stopped requested).1

/-- The service spawns a thread and stops it before it has run. The thread then runs on. -/
theorem stop_overwritten :
    let stopped : Threads := [Step.spawn, .endAudioStreamer].foldl Threads.step {}
    let started := [Step.thread 0 .next, .thread 0 (.parsed true), .thread 0 (.created 5)].foldl
      Threads.step stopped
    ¬ Stopped stopped (.thread 0 .next) ∧ started.stopRequested = true ∧ started.gRunning = true ∧
      StartsRound started (.thread 0 .next) := by
  refine ⟨fun respected => ?_, by decide, by decide, ⟨.acceptTest, by decide, by decide, by decide⟩⟩
  have clear := (respected (by decide)).1
  revert clear
  decide

end VncFlinger.Audio
