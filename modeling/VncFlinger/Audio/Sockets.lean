import Mathlib.Data.Int.Notation
import VncFlinger.Library.Ledger

/-!
# The sockets of the audio streamer

`socketmanager.cpp`: each function answers what the source returns and logs the calls it makes.
What a system call returns is an argument.
-/

namespace VncFlinger.Audio

open Ledger (Entry)

/-- The calls that obtain or close a descriptor, and those on the recorder and its client. `socket`
and `accept` carry what they returned; `start` carries what `initCheck` says of the recorder. -/
inductive Call where
  | socket (fd : ℤ)
  | accept (fd : ℤ)
  | bind (fd result : ℤ)
  | listen (fd result : ℤ)
  | shutdown (fd : ℤ)
  | close (fd : ℤ)
  | init (ok : Bool)
  | start (initialised : Bool)
  | read (length : ℤ)
  | send (fd : ℤ) (success : Bool)
  | stop
  deriving DecidableEq, Repr

/-- A call that fails returns a negative descriptor, and nothing is obtained. -/
def Call.entry : Call → Option (Entry ℤ)
  | .socket fd | .accept fd => if 0 ≤ fd then some (.gain fd) else none
  | .close fd => some (.release fd)
  | _ => none

def entries (log : List Call) : List (Entry ℤ) := log.filterMap Call.entry

@[simp] theorem entries_append (log later : List Call) :
    entries (log ++ later) = entries log ++ entries later := List.filterMap_append

structure Creation where
  socket : ℤ
  bind : ℤ
  listen : ℤ
  deriving DecidableEq, Repr

/-- The shared end of the `create` functions. -/
def cleanUp (success : Bool) (sock : ℤ) : ℤ × List Call :=
  if !success && decide (0 < sock) then (0, [.close sock]) else (sock, [])

def logged (calls : List Call) (result : ℤ × List Call) : ℤ × List Call :=
  (result.1, calls ++ result.2)

def createUnixSocket (o : Creation) : ℤ × List Call :=
  let sock := o.socket
  if sock ≤ 0 then logged [.socket sock] (cleanUp false sock)
  else if o.bind < 0 then
    -- the socket is closed here and at the shared end
    logged [.socket sock, .bind sock o.bind, .close sock] (cleanUp false sock)
  else if o.listen ≠ 0 then
    logged [.socket sock, .bind sock o.bind, .listen sock o.listen] (cleanUp false sock)
  else logged [.socket sock, .bind sock o.bind, .listen sock o.listen] (cleanUp true sock)

/-- The descriptor comes from `android_get_control_socket`, and is bound already. -/
def createAndroidSocket (o : Creation) : ℤ × List Call :=
  let sock := o.socket
  if sock ≤ 0 then logged [.socket sock] (cleanUp false sock)
  else if o.listen ≠ 0 then logged [.socket sock, .listen sock o.listen] (cleanUp false sock)
  else logged [.socket sock, .listen sock o.listen] (cleanUp true sock)

/-- A `setsockopt` that fails is only reported. -/
def createTCPSocket (o : Creation) : ℤ × List Call :=
  let sock := o.socket
  if sock ≤ 0 then logged [.socket sock] (cleanUp false sock)
  else if o.bind ≠ 0 then logged [.socket sock, .bind sock o.bind] (cleanUp false sock)
  else if o.listen ≠ 0 then
    logged [.socket sock, .bind sock o.bind, .listen sock o.listen] (cleanUp false sock)
  else logged [.socket sock, .bind sock o.bind, .listen sock o.listen] (cleanUp true sock)

def closeSocket (sock : ℤ) : List Call :=
  if 0 < sock then [.shutdown sock, .close sock] else []

structure Sockets where
  gUsingSocketAndroid : Bool := false
  gUsingSocketUnix : Bool := false
  deriving DecidableEq, Repr

def Sockets.create (g : Sockets) (o : Creation) : ℤ × List Call :=
  if g.gUsingSocketAndroid then createAndroidSocket o
  else if g.gUsingSocketUnix then createUnixSocket o
  else createTCPSocket o

/-! ### What becomes of the descriptor -/

def Sockets.unix (g : Sockets) : Bool := !g.gUsingSocketAndroid && g.gUsingSocketUnix

/-- The Android socket is bound already; the other two test the result of `bind` differently. -/
def Sockets.Unbound (g : Sockets) (o : Creation) : Prop :=
  g.gUsingSocketAndroid = false ∧ if g.gUsingSocketUnix then o.bind < 0 else o.bind ≠ 0

/-- The ways to create a socket: nothing is obtained, descriptor 0 is left, the descriptor is
closed once or, after a `bind` that fails, twice, or it listens. -/
inductive Created (g : Sockets) (o : Creation) : ℤ × List Call → Prop
  | none (failed : o.socket < 0) (calls : List Call) (nothing : entries calls = []) :
      Created g o (o.socket, calls)
  | zero (zero : o.socket = 0) (calls : List Call) (left : entries calls = [.gain 0]) :
      Created g o (0, calls)
  | closed (sock : 0 < o.socket) (refused : g.Unbound o ∨ o.listen ≠ 0)
      (once : ¬ (g.unix = true ∧ g.Unbound o)) (calls : List Call)
      (closed : entries calls = [.gain o.socket, .release o.socket]) : Created g o (0, calls)
  | twice (sock : 0 < o.socket) (unix : g.unix = true) (unbound : g.Unbound o) (calls : List Call)
      (closed : entries calls = [.gain o.socket, .release o.socket, .release o.socket]) :
      Created g o (0, calls)
  | listens (sock : 0 < o.socket) (bound : ¬ g.Unbound o) (listening : o.listen = 0)
      (calls : List Call) (kept : entries calls = [.gain o.socket]) : Created g o (o.socket, calls)

theorem create_unobtained (g : Sockets) {o : Creation} (none : o.socket ≤ 0) :
    g.create o = (o.socket, [.socket o.socket]) := by
  have kept : cleanUp false o.socket = (o.socket, []) := by simp [cleanUp, none]
  unfold Sockets.create createAndroidSocket createUnixSocket createTCPSocket
  simp [none, kept, logged]

theorem cleanUp_failed {sock : ℤ} (positive : 0 < sock) : cleanUp false sock = (0, [.close sock]) := by
  simp [cleanUp, positive]

theorem cleanUp_success (sock : ℤ) : cleanUp true sock = (sock, []) := rfl

theorem entries_socket {fd : ℤ} (obtained : 0 ≤ fd) (rest : List Call) :
    entries (.socket fd :: rest) = .gain fd :: entries rest :=
  List.filterMap_cons_some (if_pos obtained)

theorem createAndroidSocket_created {g : Sockets} {o : Creation} (sock : 0 < o.socket)
    (android : g.gUsingSocketAndroid = true) : Created g o (createAndroidSocket o) := by
  have bound : ¬ g.Unbound o := fun unbound => by simp [Sockets.Unbound, android] at unbound
  have obtained : 0 ≤ o.socket := by omega
  unfold createAndroidSocket
  simp only [if_neg (show ¬ o.socket ≤ 0 by omega), cleanUp_failed sock, cleanUp_success, logged]
  split
  · apply Created.closed sock (Or.inr ‹_›) (fun both => bound both.2)
    exact entries_socket obtained _
  · apply Created.listens sock bound (by omega)
    exact entries_socket obtained _

theorem createUnixSocket_created {g : Sockets} {o : Creation} (sock : 0 < o.socket)
    (unix : g.unix = true) : Created g o (createUnixSocket o) := by
  obtain ⟨other, chosen⟩ : g.gUsingSocketAndroid = false ∧ g.gUsingSocketUnix = true := by
    simpa [Sockets.unix] using unix
  have unbound : g.Unbound o ↔ o.bind < 0 := by simp [Sockets.Unbound, other, chosen]
  have obtained : 0 ≤ o.socket := by omega
  unfold createUnixSocket
  simp only [if_neg (show ¬ o.socket ≤ 0 by omega), cleanUp_failed sock, cleanUp_success, logged]
  split
  · apply Created.twice sock unix (unbound.mpr ‹_›)
    exact entries_socket obtained _
  · have bound : ¬ g.Unbound o := unbound.not.mpr ‹_›
    split
    · apply Created.closed sock (Or.inr ‹_›) (fun both => bound both.2)
      exact entries_socket obtained _
    · apply Created.listens sock bound (by omega)
      exact entries_socket obtained _

theorem createTCPSocket_created {g : Sockets} {o : Creation} (sock : 0 < o.socket)
    (android : g.gUsingSocketAndroid = false) (unix : g.gUsingSocketUnix = false) :
    Created g o (createTCPSocket o) := by
  have once : ¬ (g.unix = true ∧ g.Unbound o) := fun both => by simp [Sockets.unix, unix] at both
  have unbound : g.Unbound o ↔ o.bind ≠ 0 := by simp [Sockets.Unbound, android, unix]
  have obtained : 0 ≤ o.socket := by omega
  unfold createTCPSocket
  simp only [if_neg (show ¬ o.socket ≤ 0 by omega), cleanUp_failed sock, cleanUp_success, logged]
  split
  · apply Created.closed sock (Or.inl (unbound.mpr ‹_›)) once
    exact entries_socket obtained _
  · split
    · apply Created.closed sock (Or.inr ‹_›) once
      exact entries_socket obtained _
    · apply Created.listens sock (unbound.not.mpr ‹_›) (by omega)
      exact entries_socket obtained _

theorem create_created (g : Sockets) (o : Creation) : Created g o (g.create o) := by
  rcases Int.lt_trichotomy o.socket 0 with failed | zero | sock
  · rw [create_unobtained g (by omega)]
    apply Created.none failed
    simp [entries, Call.entry, show ¬ 0 ≤ o.socket by omega]
  · rw [create_unobtained g (by omega), zero]
    exact .zero zero _ rfl
  · unfold Sockets.create
    split
    · exact createAndroidSocket_created sock ‹_›
    · rename_i other
      have android : g.gUsingSocketAndroid = false := Bool.eq_false_iff.mpr other
      split
      · exact createUnixSocket_created sock (by simp [Sockets.unix, *])
      · exact createTCPSocket_created sock android (Bool.eq_false_iff.mpr ‹_›)

end VncFlinger.Audio
