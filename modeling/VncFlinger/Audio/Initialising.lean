import VncFlinger.Audio.Streamer

/-!
# The recorder that later clients meet

`pAudioRecord` is both the recorder and the mark that it was initialised. A recorder whose
`initCheck` failed stays there, and the next client's record loop runs on it.
-/

namespace VncFlinger.Audio

/-- `failed`: the last call of `audiostreamer_init` failed. -/
structure Attempts where
  streamer : Streamer := {}
  failed : Bool := false
  deriving DecidableEq, Repr

def Attempts.calls (t : Attempts) (c : Client) : List Call := (serveClient c t.streamer.pAudioRecord).2

def Attempts.serve (t : Attempts) (c : Client) : Attempts :=
  { streamer := t.streamer.serve c
    failed :=
      if .init true ∈ t.calls c then false
      else if .init false ∈ t.calls c then true
      else t.failed }

/-- The record loop is entered with an initialised recorder only, and a client that is accepted
after a failed initialisation has it attempted again. -/
structure RecordsInitialised (t : Attempts) (c : Client) : Prop where
  entered : ∀ initialised, .start initialised ∈ t.calls c → initialised = true
  retried : t.failed = true → 0 < c.sock_n → ∃ ok, .init ok ∈ t.calls c

/-- The client is not served with a recorder whose `initCheck` failed. -/
def MeetsUsable (t : Attempts) (c : Client) : Prop :=
  0 < c.sock_n → t.streamer.pAudioRecord ≠ some ⟨false⟩

/-- The first recorder that is created is initialised, or no client is accepted after it. -/
def FirstUsable : List Client → Prop
  | [] => True
  | c :: rest =>
    if c.sock_n ≤ 0 ∨ c.recording.created = false then FirstUsable rest
    else c.recording.initCheck = true ∨ ∀ later ∈ rest, later.sock_n ≤ 0

/-! ### What one client does to the recorder -/

variable {t : Attempts} {c : Client}

/-- The calls of one client, but for those of the record loop. -/
inductive Served (c : Client) : Option Recorder → Option Recorder → List Call → Prop
  | refused (none : c.sock_n ≤ 0) (p : Option Recorder) : Served c p p [.accept c.sock_n]
  | kept (sock : 0 < c.sock_n) (r : Recorder) :
      Served c (some r) (some r) (.accept c.sock_n :: record c.sock_n (some r) c.recording)
  | failed (sock : 0 < c.sock_n) (why : c.recording.created = false ∨ c.recording.initCheck = false) :
      Served c none (if c.recording.created then some ⟨false⟩ else none) [.accept c.sock_n, .init false]
  | initialised (sock : 0 < c.sock_n) (created : c.recording.created = true)
      (ok : c.recording.initCheck = true) :
      Served c none (some ⟨true⟩)
        (.accept c.sock_n :: .init true :: record c.sock_n (some ⟨true⟩) c.recording)

theorem serveClient_served (c : Client) (p : Option Recorder) :
    Served c p (serveClient c p).1 (serveClient c p).2 := by
  by_cases sock : 0 < c.sock_n
  · simp only [serveClient, if_pos sock]
    cases p with
    | some r => exact .kept sock r
    | none =>
      cases created : c.recording.created <;> cases ok : c.recording.initCheck
      · have served := Served.failed sock (Or.inl created)
        simpa [recordThread, audiostreamerInit, created, ok] using served
      · have served := Served.failed sock (Or.inl created)
        simpa [recordThread, audiostreamerInit, created, ok] using served
      · have served := Served.failed sock (Or.inr ok)
        simpa [recordThread, audiostreamerInit, created, ok] using served
      · have served := Served.initialised sock created ok
        simpa [recordThread, audiostreamerInit, created, ok] using served
  · simp only [serveClient, if_neg sock]
    exact .refused (by omega) p

theorem recordLoop_calls {nSock : ℤ} {rounds : List Round} {call : Call}
    (made : call ∈ recordLoop nSock rounds) : (∃ length, call = .read length) ∨ ∃ sent, call = .send nSock sent := by
  induction rounds with
  | nil => simp [recordLoop] at made
  | cons round rest ih =>
    unfold recordLoop at made
    split at made
    · rcases List.mem_cons.mp made with rfl | later
      · exact Or.inl ⟨_, rfl⟩
      · exact ih later
    · split at made
      · rcases List.mem_cons.mp made with rfl | made
        · exact Or.inl ⟨_, rfl⟩
        · rcases List.mem_cons.mp made with rfl | later
          · exact Or.inr ⟨_, rfl⟩
          · exact ih later
      · rcases List.mem_cons.mp made with rfl | made
        · exact Or.inl ⟨_, rfl⟩
        · exact Or.inr ⟨_, List.mem_singleton.mp made⟩

theorem record_calls {n : ℤ} {r : Option Recorder} {o : Recording} {call : Call}
    (made : call ∈ record n r o) :
    call = .start (r.any Recorder.initialised) ∨ (∃ length, call = .read length) ∨
      (∃ sent, call = .send n sent) ∨ call = .stop ∨ call = .shutdown n ∨ call = .close n := by
  unfold record at made
  split at made
  · cases made
  · simp only [List.mem_append, List.mem_singleton] at made
    rcases made with ((start | looped) | stop) | closed
    · exact Or.inl start
    · rcases recordLoop_calls looped with read | send
      · exact Or.inr (Or.inl read)
      · exact Or.inr (Or.inr (Or.inl send))
    · exact Or.inr (Or.inr (Or.inr (Or.inl stop)))
    · unfold closeSocket at closed
      split at closed
      · simp only [List.mem_cons, List.not_mem_nil, or_false] at closed
        exact Or.inr (Or.inr (Or.inr (Or.inr closed)))
      · cases closed

theorem record_start {n : ℤ} {r : Option Recorder} {o : Recording} {initialised : Bool}
    (made : .start initialised ∈ record n r o) : initialised = r.any Recorder.initialised := by
  simpa using record_calls made

theorem record_init {n : ℤ} {r : Option Recorder} {o : Recording} {ok : Bool} :
    .init ok ∉ record n r o := by
  intro made
  simpa using record_calls made

theorem Attempts.served (t : Attempts) (c : Client) :
    Served c t.streamer.pAudioRecord (t.serve c).streamer.pAudioRecord (t.calls c) :=
  serveClient_served c t.streamer.pAudioRecord

/-! ### The whole run -/

/-- A recorder whose `initCheck` failed is there only after a failed initialisation, and after one
there is no other. -/
structure Attempts.Sound (t : Attempts) : Prop where
  marked : t.streamer.pAudioRecord = some ⟨false⟩ → t.failed = true
  left : t.failed = true → t.streamer.pAudioRecord = none ∨ t.streamer.pAudioRecord = some ⟨false⟩

theorem Attempts.Sound.step (sound : t.Sound) (c : Client) : (t.serve c).Sound := by
  obtain ⟨marked, left⟩ := sound
  have how := t.served c
  have failed : (t.serve c).failed =
      if .init true ∈ t.calls c then false else if .init false ∈ t.calls c then true else t.failed := rfl
  generalize t.calls c = calls at how failed
  generalize t.streamer.pAudioRecord = before at how marked left
  constructor <;> rw [failed] <;> generalize (t.serve c).streamer.pAudioRecord = after at how
  · cases how with
    | refused none => simpa using marked
    | kept sock r => simpa [record_init] using marked
    | failed sock why => simp
    | initialised sock created ok => simp
  · cases how with
    | refused none => simpa using left
    | kept sock r => simpa [record_init] using left
    | failed sock why =>
      intro _
      split
      · exact Or.inr rfl
      · exact Or.inl rfl
    | initialised sock created ok => simp

theorem recordsInitialised_iff (sound : t.Sound) (c : Client) :
    RecordsInitialised t c ↔ MeetsUsable t c := by
  have how := t.served c
  obtain ⟨marked, left⟩ := sound
  unfold MeetsUsable
  constructor
  · rintro ⟨_, retried⟩ sock unusable
    obtain ⟨ok, again⟩ := retried (marked unusable) sock
    rw [unusable] at how
    generalize t.calls c = calls at how again
    generalize (t.serve c).streamer.pAudioRecord = after at how
    cases how with
    | refused none => omega
    | kept _ r => simp [record_init] at again
  · intro usable
    constructor
    · intro initialised entered
      generalize t.calls c = calls at how entered
      generalize t.streamer.pAudioRecord = before at how usable
      generalize (t.serve c).streamer.pAudioRecord = after at how
      cases how with
      | refused none => simp at entered
      | kept sock r =>
        have looped : .start initialised ∈ record c.sock_n (some r) c.recording := by simpa using entered
        have same : initialised = r.initialised := record_start looped
        have other := usable sock
        obtain ⟨initialised'⟩ := r
        cases initialised' with
        | false => exact absurd rfl other
        | true => exact same
      | failed sock why => simp at entered
      | initialised sock created ok =>
        have looped : .start initialised ∈ record c.sock_n (some ⟨true⟩) c.recording := by
          simpa using entered
        exact record_start looped
    · intro before sock
      have none := (left before).resolve_right (usable sock)
      rw [none] at how
      generalize t.calls c = calls at how
      generalize (t.serve c).streamer.pAudioRecord = after at how
      cases how with
      | refused refused => omega
      | failed _ why => exact ⟨false, by simp⟩
      | initialised _ created ok => exact ⟨true, by simp⟩

theorem records_initialised_along (clients : List Client) :
    Runs.Along Attempts.serve RecordsInitialised {} clients ↔
      Runs.Along Attempts.serve MeetsUsable {} clients := by
  have start : Attempts.Sound {} := ⟨nofun, nofun⟩
  apply Runs.along_iff start
  · exact fun _ c _ sound => recordsInitialised_iff sound c
  · exact fun _ c _ sound _ => sound.step c

/-! ### The condition on the clients -/

theorem serve_none (none : t.streamer.pAudioRecord = none) :
    (t.serve c).streamer.pAudioRecord =
      if c.sock_n ≤ 0 ∨ c.recording.created = false then Option.none
      else some ⟨c.recording.initCheck⟩ := by
  have how := t.served c
  rw [none] at how
  generalize (t.serve c).streamer.pAudioRecord = after at how
  generalize t.calls c = calls at how
  cases how with
  | refused refused => rw [if_pos (Or.inl refused)]
  | failed sock why =>
    have taken : ¬ c.sock_n ≤ 0 := by omega
    cases created : c.recording.created with
    | false => simp
    | true => simp [taken, why.resolve_left (by simp [created])]
  | initialised sock created ok =>
    have taken : ¬ c.sock_n ≤ 0 := by omega
    simp [taken, created, ok]

/-- A recorder that is there stays. -/
theorem serve_some {r : Recorder} (there : t.streamer.pAudioRecord = some r) :
    (t.serve c).streamer.pAudioRecord = some r := by
  have how := t.served c
  rw [there] at how
  generalize (t.serve c).streamer.pAudioRecord = after at how
  generalize t.calls c = calls at how
  cases how with
  | refused => rfl
  | kept => rfl

theorem usable_stays {clients : List Client} (usable : t.streamer.pAudioRecord = some ⟨true⟩) :
    Runs.Along Attempts.serve MeetsUsable t clients := by
  apply Runs.along_of_invariant (I := fun t : Attempts => t.streamer.pAudioRecord = some ⟨true⟩) usable
  intro t c _ there
  refine ⟨fun _ unusable => ?_, serve_some there⟩
  rw [there] at unusable
  cases unusable

theorem unusable_stays {clients : List Client} (unusable : t.streamer.pAudioRecord = some ⟨false⟩) :
    Runs.Along Attempts.serve MeetsUsable t clients ↔ ∀ c ∈ clients, c.sock_n ≤ 0 := by
  induction clients generalizing t with
  | nil => simp
  | cons c rest ih =>
    have now : MeetsUsable t c ↔ c.sock_n ≤ 0 := by
      unfold MeetsUsable
      constructor
      · intro meets
        by_contra sock
        exact meets (by omega) unusable
      · intro refused sock
        omega
    rw [Runs.along_cons, now, ih (serve_some unusable), List.forall_mem_cons]

theorem meetsUsable_along {clients : List Client} (none : t.streamer.pAudioRecord = none) :
    Runs.Along Attempts.serve MeetsUsable t clients ↔ FirstUsable clients := by
  induction clients generalizing t with
  | nil => exact Iff.rfl
  | cons c rest ih =>
    have now : MeetsUsable t c := fun _ => by simp [none]
    rw [Runs.along_cons, and_iff_right now, FirstUsable]
    have after := serve_none (c := c) none
    split
    · rename_i passed
      rw [if_pos passed] at after
      exact ih after
    · rename_i created
      rw [if_neg created] at after
      cases ok : c.recording.initCheck with
      | true =>
        rw [ok] at after
        exact iff_of_true (usable_stays after) (Or.inl rfl)
      | false =>
        rw [ok] at after
        rw [unusable_stays after]
        simp

theorem records_initialised_iff (clients : List Client) :
    Runs.Along Attempts.serve RecordsInitialised {} clients ↔ FirstUsable clients :=
  (records_initialised_along clients).trans (meetsUsable_along rfl)

/-- `initCheck` fails for the first client. The second meets the same recorder and is recorded with
it, without another attempt. -/
theorem records_uninitialised :
    let first : Client := ⟨5, ⟨true, false, true, []⟩⟩
    let second : Client := ⟨6, ⟨true, true, true, [⟨1452, true⟩]⟩⟩
    ¬ Runs.Along Attempts.serve RecordsInitialised {} [first, second] ∧
      (Attempts.serve {} first).calls second =
        [.accept 6, .start false, .read 1452, .send 6 true, .stop, .shutdown 6, .close 6] := by
  refine ⟨?_, by decide⟩
  rintro ⟨_, second, _⟩
  have usable := second.entered false (by decide)
  cases usable

end VncFlinger.Audio
