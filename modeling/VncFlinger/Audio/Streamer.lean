import VncFlinger.Library.Runs
import VncFlinger.Audio.Sockets

/-!
# The accept loop and the record loop

`audiostreamer_create_thread` serves one client after another on its own thread. `gRunning` is
tested before each round of a loop, and another thread may clear it at any time: a list of rounds
is as long as the tests find it set.
-/

namespace VncFlinger.Audio

/-- `initialised` is what `initCheck` answers. -/
structure Recorder where
  initialised : Bool
  deriving DecidableEq, Repr

/-- One round of the record loop: what `AudioRecord::read` and `sendDataSocket` answer. -/
structure Round where
  iReadLen : ℤ
  sent : Bool
  deriving DecidableEq, Repr

structure Recording where
  created : Bool
  initCheck : Bool
  malloc : Bool
  rounds : List Round
  deriving DecidableEq, Repr

structure Client where
  sock_n : ℤ
  recording : Recording
  deriving DecidableEq, Repr

def audiostreamerInit (o : Recording) : Bool × Option Recorder :=
  (o.created && o.initCheck, if o.created then some ⟨o.initCheck⟩ else none)

/-- A read that fails goes on to the next round, a send that fails ends the loop. -/
def recordLoop (nSock : ℤ) : List Round → List Call
  | [] => []
  | round :: rest =>
    if round.iReadLen ≤ 0 then .read round.iReadLen :: recordLoop nSock rest
    else if round.sent then .read round.iReadLen :: .send nSock true :: recordLoop nSock rest
    else [.read round.iReadLen, .send nSock false]

/-- The record loop, from the allocation of its buffer to the end. -/
def record (nSock : ℤ) (recorder : Option Recorder) (o : Recording) : List Call :=
  if !o.malloc then []
  else
    [.start (recorder.any Recorder.initialised)] ++ recordLoop nSock o.rounds ++ [.stop]
      ++ closeSocket nSock

def recordThread (arg : Option ℤ) (o : Recording) (pAudioRecord : Option Recorder) :
    Option Recorder × List Call :=
  match arg with
  | none => (pAudioRecord, [])
  | some nSock =>
    if pAudioRecord.isNone then
      let (ok, recorder) := audiostreamerInit o
      if !ok then (recorder, [.init false]) else (recorder, .init true :: record nSock recorder o)
    else (pAudioRecord, record nSock pAudioRecord o)

/-- The recorder is a global and outlives connections and starts. -/
structure Streamer where
  pAudioRecord : Option Recorder := none
  log : List Call := []
  deriving DecidableEq, Repr

def serveClient (c : Client) (pAudioRecord : Option Recorder) : Option Recorder × List Call :=
  if 0 < c.sock_n then
    let (recorder, calls) := recordThread (some c.sock_n) c.recording pAudioRecord
    (recorder, .accept c.sock_n :: calls)
  else (pAudioRecord, [.accept c.sock_n])

def Streamer.serve (s : Streamer) (c : Client) : Streamer :=
  { pAudioRecord := (serveClient c s.pAudioRecord).1, log := s.log ++ (serveClient c s.pAudioRecord).2 }

/-- A run of `audiostreamer_create_thread`: what the system answers. -/
structure Session where
  sockets : Sockets
  creation : Creation
  clients : List Client
  deriving DecidableEq, Repr

def Session.creating (run : Session) (pAudioRecord : Option Recorder) : Streamer :=
  { pAudioRecord := pAudioRecord, log := (run.sockets.create run.creation).2 }

/-- The loop ends when `gRunning` is found clear. -/
def createThread (run : Session) (pAudioRecord : Option Recorder) : Streamer :=
  let sock := (run.sockets.create run.creation).1
  if sock ≤ 0 then run.creating pAudioRecord
  else run.clients.foldl Streamer.serve (run.creating pAudioRecord)

/-! ### What becomes of a client's descriptor -/

@[simp] theorem entries_recordLoop (nSock : ℤ) (rounds : List Round) :
    entries (recordLoop nSock rounds) = [] := by
  induction rounds with
  | nil => rfl
  | cons round rest ih =>
    unfold recordLoop
    split
    · exact ih
    · split
      · exact ih
      · rfl

theorem entries_record {nSock : ℤ} {recorder : Option Recorder} {o : Recording} (sock : 0 < nSock) :
    entries (record nSock recorder o) = if o.malloc then [.release nSock] else [] := by
  cases malloc : o.malloc with
  | false => simp [record, malloc, entries]
  | true =>
    have recorded : record nSock recorder o =
        [.start (recorder.any Recorder.initialised)] ++ recordLoop nSock o.rounds ++ [.stop] ++
          [.shutdown nSock, .close nSock] := by simp [record, malloc, closeSocket, sock]
    rw [recorded]
    simp only [entries_append, entries_recordLoop]
    rfl

/-- There is a recorder already, or one is created and initialised, and the buffer is allocated. -/
def Recording.completes (o : Recording) (pAudioRecord : Option Recorder) : Bool :=
  (pAudioRecord.isSome || o.created && o.initCheck) && o.malloc

theorem entries_recordThread {nSock : ℤ} {pAudioRecord : Option Recorder} {o : Recording}
    (sock : 0 < nSock) :
    entries (recordThread (some nSock) o pAudioRecord).2 =
      if o.completes pAudioRecord then [.release nSock] else [] := by
  cases pAudioRecord with
  | some recorder =>
    have kept : (recordThread (some nSock) o (some recorder)).2 = record nSock (some recorder) o := rfl
    rw [kept, entries_record sock]
    simp [Recording.completes]
  | none =>
    cases ready : o.created && o.initCheck with
    | false =>
      have refused : (recordThread (some nSock) o none).2 = [.init false] := by
        simp [recordThread, audiostreamerInit, ready]
      rw [refused]
      simp [entries, Call.entry, Recording.completes, ready]
    | true =>
      have created : (recordThread (some nSock) o none).2 =
          .init true :: record nSock (audiostreamerInit o).2 o := by
        simp [recordThread, audiostreamerInit, ready]
      rw [created]
      show entries (record nSock _ o) = _
      rw [entries_record sock]
      simp [Recording.completes, ready]

/-- Descriptor 0 is not served, and is not closed. -/
theorem entries_serveClient (c : Client) (pAudioRecord : Option Recorder) :
    entries (serveClient c pAudioRecord).2 =
      if c.sock_n < 0 then []
      else if 0 < c.sock_n ∧ c.recording.completes pAudioRecord then [.gain c.sock_n, .release c.sock_n]
      else [.gain c.sock_n] := by
  have accepted : ∀ rest, entries (.accept c.sock_n :: rest) =
      (if 0 ≤ c.sock_n then [.gain c.sock_n] else []) ++ entries rest := by
    intro rest
    show List.filterMap _ _ = _
    by_cases obtained : 0 ≤ c.sock_n <;> simp [entries, Call.entry, obtained]
  by_cases sock : 0 < c.sock_n
  · have served : (serveClient c pAudioRecord).2 =
        .accept c.sock_n :: (recordThread (some c.sock_n) c.recording pAudioRecord).2 := by
      simp [serveClient, sock]
    have obtained : 0 ≤ c.sock_n := by omega
    have succeeded : ¬ c.sock_n < 0 := by omega
    rw [served, accepted, entries_recordThread sock, if_pos obtained, if_neg succeeded]
    cases c.recording.completes pAudioRecord <;> simp [sock]
  · have passed : (serveClient c pAudioRecord).2 = [.accept c.sock_n] := by simp [serveClient, sock]
    rw [passed, accepted]
    by_cases failed : c.sock_n < 0
    · simp [failed, entries, show ¬ 0 ≤ c.sock_n by omega]
    · simp [failed, sock, entries, show 0 ≤ c.sock_n by omega]

end VncFlinger.Audio
