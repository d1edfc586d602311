import VncFlinger.Audio.Streamer

/-!
# Which descriptors are closed, and how often

The streamer never closes a listening socket it created, and leaves the client's descriptor open
when the recorder or its buffer is not there. A Unix socket that cannot be bound is closed twice.
-/

namespace VncFlinger.Audio

open Ledger

variable {s : Streamer} {c : Client} {pAudioRecord : Option Recorder}

/-- The clients that are accepted: none without a listening socket. -/
def Session.served (run : Session) : List Client :=
  if (run.sockets.create run.creation).1 ≤ 0 then [] else run.clients

/-- What is obtained for a client is closed once, from the accept to the return of the record thread. -/
def ClientClosed (s : Streamer) (c : Client) : Prop := Settled (entries (serveClient c s.pAudioRecord).2)

/-- Every descriptor of a run is closed exactly once: the clients' when the record thread returns,
all of them when the run does, and none twice on the way. -/
structure ClosedOnce (run : Session) (pAudioRecord : Option Recorder) : Prop where
  never_twice : NeverTwice (entries (createThread run pAudioRecord).log)
  clients : Runs.Along Streamer.serve ClientClosed (run.creating pAudioRecord) run.served
  returned : Settled (entries (createThread run pAudioRecord).log)

def Session.ClosesTwice (run : Session) : Prop :=
  0 < run.creation.socket ∧ run.sockets.unix = true ∧ run.sockets.Unbound run.creation

/-- No descriptor is obtained for the listening socket, or it is refused and closed once. -/
def Session.NothingListens (run : Session) : Prop :=
  run.creation.socket < 0 ∨
    0 < run.creation.socket ∧ (run.sockets.Unbound run.creation ∨ run.creation.listen ≠ 0) ∧
      ¬ run.ClosesTwice

/-- Nobody is accepted, or on a positive descriptor and the record loop is reached. -/
def GivenBack (s : Streamer) (c : Client) : Prop :=
  c.sock_n < 0 ∨ 0 < c.sock_n ∧ c.recording.completes s.pAudioRecord = true

/-! ### One client -/

theorem serveClient_neverTwice : NeverTwice (entries (serveClient c pAudioRecord).2) := by
  rw [entries_serveClient]
  split
  · exact neverTwice_nil
  · split
    · exact neverTwice_gain_release _
    · exact neverTwice_gain _

theorem clientClosed_iff : ClientClosed s c ↔ GivenBack s c := by
  unfold ClientClosed GivenBack
  rw [entries_serveClient]
  by_cases failed : c.sock_n < 0
  · simp only [if_pos failed]
    exact iff_of_true settled_nil (Or.inl failed)
  · simp only [if_neg failed]
    by_cases given : 0 < c.sock_n ∧ c.recording.completes s.pAudioRecord = true
    · simp only [if_pos given]
      exact iff_of_true (settled_gain_release _) (Or.inr given)
    · simp only [if_neg given]
      exact iff_of_false (not_settled_gain _) fun back => given (back.resolve_left failed)

theorem serve_entries (s : Streamer) (c : Client) :
    entries (s.serve c).log = entries s.log ++ entries (serveClient c s.pAudioRecord).2 :=
  entries_append _ _

theorem serve_neverTwice (once : NeverTwice (entries s.log)) : NeverTwice (entries (s.serve c).log) := by
  rw [serve_entries]
  exact once.append serveClient_neverTwice

/-! ### All clients -/

theorem clients_neverTwice (once : NeverTwice (entries s.log)) (clients : List Client) :
    NeverTwice (entries (clients.foldl Streamer.serve s).log) :=
  Runs.foldl_invariant (I := fun s : Streamer => NeverTwice (entries s.log)) once fun _ _ _ =>
    serve_neverTwice

theorem settled_before {clients : List Client} (once : NeverTwice (entries s.log))
    (settled : Settled (entries (clients.foldl Streamer.serve s).log)) : Settled (entries s.log) := by
  induction clients generalizing s with
  | nil => exact settled
  | cons c rest ih =>
    have served := ih (serve_neverTwice once) settled
    rw [serve_entries] at served
    exact ((settled_append once serveClient_neverTwice).mp served).1

theorem createThread_served (run : Session) (pAudioRecord : Option Recorder) :
    createThread run pAudioRecord = run.served.foldl Streamer.serve (run.creating pAudioRecord) := by
  unfold createThread Session.served
  simp only
  split <;> rfl

theorem served_nil {run : Session} (refused : (run.sockets.create run.creation).1 ≤ 0) : run.served = [] :=
  if_pos refused

/-- How the ledger stands before the first client. -/
inductive Opening (run : Session) : Prop
  | clean (nothing : run.NothingListens) (unserved : run.served = [])
      (once : NeverTwice (entries (run.sockets.create run.creation).2))
      (settled : Settled (entries (run.sockets.create run.creation).2))
  | twice (twice : run.ClosesTwice) (unserved : run.served = [])
      (again : ¬ NeverTwice (entries (run.sockets.create run.creation).2))
  | unclosed (listens : ¬ run.NothingListens) (bound : ¬ run.ClosesTwice)
      (once : NeverTwice (entries (run.sockets.create run.creation).2))
      (left : ¬ Settled (entries (run.sockets.create run.creation).2))

theorem opening (run : Session) : Opening run := by
  have how := create_created run.sockets run.creation
  have unserved : ∀ {calls}, run.sockets.create run.creation = (0, calls) → run.served = [] :=
    fun answer => served_nil (Int.le_of_eq (congrArg Prod.fst answer))
  generalize answer : run.sockets.create run.creation = created at how
  cases how with
  | none failed calls nothing =>
    refine .clean (Or.inl failed) (served_nil (by rw [answer]; exact Int.le_of_lt failed)) ?_ ?_
    · rw [answer, nothing]
      exact neverTwice_nil
    · rw [answer, nothing]
      exact settled_nil
  | zero zero calls left =>
    refine .unclosed ?_ ?_ ?_ ?_
    · rintro (failed | ⟨sock, _⟩) <;> omega
    · rintro ⟨sock, _⟩
      omega
    · rw [answer, left]
      exact neverTwice_gain 0
    · rw [answer, left]
      exact not_settled_gain 0
  | closed sock refused once calls closed =>
    have bound : ¬ run.ClosesTwice := fun twice => once twice.2
    refine .clean (Or.inr ⟨sock, refused, bound⟩) (unserved answer) ?_ ?_
    · rw [answer, closed]
      exact neverTwice_gain_release _
    · rw [answer, closed]
      exact settled_gain_release _
  | twice sock unix unbound calls closed =>
    refine .twice ⟨sock, unix, unbound⟩ (unserved answer) ?_
    rw [answer, closed]
    intro once
    have more := once.le run.creation.socket
    simp [gains, releases] at more
  | listens sock bound listening calls kept =>
    refine .unclosed ?_ (fun twice => bound twice.2.2) ?_ ?_
    · rintro (failed | ⟨_, unbound | refused, _⟩)
      · omega
      · exact bound unbound
      · exact refused listening
    · rw [answer, kept]
      exact neverTwice_gain _
    · rw [answer, kept]
      exact not_settled_gain _

theorem createThread_unserved {run : Session} (unserved : run.served = []) :
    createThread run pAudioRecord = run.creating pAudioRecord := by
  rw [createThread_served, unserved]
  rfl

theorem never_twice_iff (run : Session) :
    NeverTwice (entries (createThread run pAudioRecord).log) ↔ ¬ run.ClosesTwice := by
  cases opening run with
  | clean nothing unserved once settled =>
    rw [createThread_unserved unserved]
    refine iff_of_true once fun twice => ?_
    rcases nothing with failed | ⟨_, _, bound⟩
    · have sock := twice.1
      omega
    · exact bound twice
  | twice twice unserved again =>
    rw [createThread_unserved unserved]
    exact iff_of_false again fun bound => bound twice
  | unclosed listens bound once left =>
    rw [createThread_served]
    exact iff_of_true (clients_neverTwice once _) bound

theorem clients_closed_iff (run : Session) :
    Runs.Along Streamer.serve ClientClosed (run.creating pAudioRecord) run.served ↔
      Runs.Along Streamer.serve GivenBack (run.creating pAudioRecord) run.served :=
  Runs.along_iff (I := fun _ => True) trivial (fun _ _ _ _ => clientClosed_iff) fun _ _ _ _ _ => trivial

theorem closedOnce_iff (run : Session) : ClosedOnce run pAudioRecord ↔ run.NothingListens := by
  cases opening run with
  | clean nothing unserved once settled =>
    refine iff_of_true ⟨?_, ?_, ?_⟩ nothing
    · rwa [createThread_unserved unserved]
    · rw [unserved]
      trivial
    · rwa [createThread_unserved unserved]
  | twice twice unserved again =>
    refine iff_of_false (fun closed => ?_) ?_
    · exact (never_twice_iff run).mp closed.never_twice twice
    · rintro (failed | ⟨_, _, bound⟩)
      · have sock := twice.1
        omega
      · exact bound twice
  | unclosed listens bound once left =>
    refine iff_of_false (fun closed => ?_) listens
    have settled := closed.returned
    rw [createThread_served] at settled
    exact left (settled_before once settled)

/-- The whole property, and its two parts that do not fail with every listening socket. -/
theorem descriptors_closed_once_iff (run : Session) (pAudioRecord : Option Recorder) :
    (ClosedOnce run pAudioRecord ↔ run.NothingListens) ∧
      (NeverTwice (entries (createThread run pAudioRecord).log) ↔ ¬ run.ClosesTwice) ∧
      (Runs.Along Streamer.serve ClientClosed (run.creating pAudioRecord) run.served ↔
        Runs.Along Streamer.serve GivenBack (run.creating pAudioRecord) run.served) :=
  ⟨closedOnce_iff run, never_twice_iff run, clients_closed_iff run⟩

def unixSockets : Sockets := { gUsingSocketUnix := true }

/-- A client for whom the recorder cannot be initialised, on a socket that listens. -/
def uninitialisedClient : Session :=
  ⟨unixSockets, ⟨5, 0, 0⟩, [⟨6, ⟨true, false, true, []⟩⟩]⟩

/-- Descriptor 5 listens and stays open, and so does the client's descriptor 6; on a name that is
taken 5 is closed twice. -/
theorem descriptors_left_open :
    ¬ ClosedOnce uninitialisedClient none ∧
      entries (createThread uninitialisedClient none).log = [.gain 5, .gain 6] ∧
      entries (createThread ⟨unixSockets, ⟨5, -1, 0⟩, []⟩ none).log = [.gain 5, .release 5, .release 5] := by
  refine ⟨fun closed => ?_, by decide, by decide⟩
  have same := closed.returned 5
  revert same
  decide

end VncFlinger.Audio
