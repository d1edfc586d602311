import VncFlinger.Library.Runs
import VncFlinger.Service.Command

/-!
# Sessions of the native server

A start or restart of the service leaves a new `vncThread`, which enters `startService` and stays in
its loop until `gCaughtSignal`. `quit` sets this flag and nothing clears it, so that the call after a
restart leaves at its first test. The threads and the main thread take their steps in any order.
-/

namespace VncFlinger.Service

/-- How far a `vncThread` is. A call of `startService` remembers how many `quit`s were issued before it
began, and whether it began with no other call under way. -/
inductive VncThread where
  | created
  | initialized
  | ready
  | serving (began : Nat) (lone : Bool)
  | left (began ended : Nat) (lone : Bool)
  deriving DecidableEq, Repr

/-- The main thread runs one command at a time, with a sleep before it acquires or exits. Acquiring is one
step: what follows the new thread's start touches nothing that the threads share. -/
inductive MainThread where
  | idle | acquiring | exiting
  deriving DecidableEq, Repr

structure World where
  service : Fields := {}
  main : MainThread := .idle
  gCaughtSignal : Bool := false
  desktop : Bool := false
  threads : List VncThread := []
  deriving DecidableEq, Repr

inductive Move where
  | initializeVncFlinger (exitCode : Int32)
  | doSetDisplayProps
  | startService
  | testLoop
  | onResizeDisplay (width height : Int32)
  | raise
  deriving DecidableEq, Repr

inductive Event where
  | onStartCommand (intent : Intent)
  | acquire
  | onDestroy
  | exit
  | audioThread (exitCode : Int32)
  | vncThread (i : Nat) (move : Move)
  deriving DecidableEq, Repr

def VncThread.isServing : VncThread → Bool
  | .serving _ _ => true
  | _ => false

namespace World

def quits (w : World) : Nat := w.service.effects.count .quit

def lone (w : World) : Bool := w.threads.all fun t => !t.isServing

def handle (w : World) : Effect → World
  | .quit => { w with gCaughtSignal := true }
  | .startVncThread => { w with threads := w.threads ++ [.created] }
  | _ => w

def update (w : World) (s : Fields) : World :=
  (s.effects.drop w.service.effects.length).foldl handle { w with service := s }

def advance (w : World) (desktop : Bool) (i : Nat) (t : VncThread) : World :=
  { w with desktop := desktop, threads := w.threads.set i t }

/-- One step of thread `i`. An exit code other than 0 goes to `onError`, whose exception ends the process,
as a null desktop does; a desktop is deleted by the call that leaves. -/
def move (android : Android) (w : World) (i : Nat) (t : VncThread) : Move → Option World
  | .initializeVncFlinger exitCode =>
    match t with
    | .created => if exitCode = 0 then some (w.advance true i .initialized) else none
    | _ => some w
  | .doSetDisplayProps =>
    match t with
    | .initialized =>
      match Service.doSetDisplayProps android w.service with
      | .ok _ s => some ((w.update s).advance w.desktop i .ready)
      | .error _ _ => none
    | _ => some w
  | .startService =>
    match t with
    | .ready => if w.desktop then some (w.advance true i (.serving w.quits w.lone)) else none
    | _ => some w
  | .testLoop =>
    match t with
    | .serving began lone =>
      if w.gCaughtSignal then some (w.advance false i (.left began w.quits lone)) else some w
    | _ => some w
  | .onResizeDisplay width height =>
    match t with
    | .serving _ _ =>
      match Service.onResizeDisplay android width height w.service with
      | .ok _ s => some (w.update s)
      | .error _ _ => none
    | _ => some w
  | .raise => if t.isServing then none else some w

/-- One step of the process, or `none` once it has ended. -/
def step (android : Android) (w : World) : Event → Option World
  | .onStartCommand intent =>
    if w.main = .idle then
      match receive android intent w.service with
      | .ok true s => some { w.update s with main := .acquiring }
      | .ok false s => some (w.update s)
      | .error _ _ => none
    else some w
  | .acquire =>
    if w.main = .acquiring then
      match Service.acquire android w.service with
      | .ok _ s => some { w.update s with main := .idle }
      | .error _ _ => none
    else some w
  | .onDestroy =>
    if w.main = .idle then
      match cleanup w.service with
      | .ok _ s => some { w.update s with main := .exiting }
      | .error _ _ => none
    else some w
  | .exit => if w.main = .exiting then none else some w
  | .audioThread exitCode => if exitCode = 0 then some w else none
  | .vncThread i m =>
    match w.threads[i]? with
    | some t => w.move android i t m
    | none => some w

end World

def processStep (android : Android) : Option World → Event → Option World
  | none, _ => none
  | some w, e => w.step android e

/-- A call that began with no other under way leaves only on a `quit` issued after it began. -/
def VncThread.Obeys (gCaughtSignal : Bool) (quits : Nat) : VncThread → Prop
  | .serving began true => gCaughtSignal = true → began < quits
  | .left began ended true => began < ended
  | _ => True

/-- The thread is in its loop or on the way to it. -/
def VncThread.Serves (gCaughtSignal : Bool) : VncThread → Prop
  | .serving _ _ => gCaughtSignal = false
  | .left _ _ _ => False
  | _ => True

structure Sustained (w : World) : Prop where
  calls : ∀ t ∈ w.threads, t.Obeys w.gCaughtSignal w.quits
  newest : w.main = .idle → w.service.mIsRunning = true →
    ∃ t ∈ w.threads.getLast?, t.Serves w.gCaughtSignal

/-- Thread `i` belongs to the service that is running. -/
def World.isNewest (w : World) (i : Nat) : Prop :=
  i + 1 = w.threads.length ∧ w.main = .idle ∧ w.service.mIsRunning = true

/-- The step calls `startService` with no other call under way, or for the service that is running. -/
def Begins (w : World) : Event → Prop
  | .vncThread i .startService => w.threads[i]? = some .ready ∧
    (w.lone = true ∨ w.isNewest i)
  | _ => False

/-- A call that begins has its desktop, and every call stays in its loop until its own `quit`. -/
def Sustains (android : Android) : Option World → Event → Prop
  | none, _ => True
  | some w, e => (Begins w e → w.desktop = true) ∧ ∀ w' ∈ w.step android e, Sustained w'

/-- No `quit` was issued in the process before the call begins. -/
def FirstSession : Option World → Event → Prop
  | none, _ => True
  | some w, e => Begins w e → w.quits = 0

instance (gCaughtSignal : Bool) (quits : Nat) : (t : VncThread) → Decidable (t.Obeys gCaughtSignal quits)
  | .serving began true => inferInstanceAs (Decidable (gCaughtSignal = true → began < quits))
  | .left began ended true => inferInstanceAs (Decidable (began < ended))
  | .serving _ false | .left _ _ false | .created | .initialized | .ready => isTrue trivial

instance (gCaughtSignal : Bool) : (t : VncThread) → Decidable (t.Serves gCaughtSignal)
  | .serving _ _ => inferInstanceAs (Decidable (gCaughtSignal = false))
  | .left _ _ _ => isFalse id
  | .created | .initialized | .ready => isTrue trivial

instance (w : World) : Decidable (Sustained w) :=
  decidable_of_iff' ((∀ t ∈ w.threads, t.Obeys w.gCaughtSignal w.quits) ∧
    (w.main = .idle → w.service.mIsRunning = true → ∃ t ∈ w.threads.getLast?, t.Serves w.gCaughtSignal))
    ⟨fun h => ⟨h.calls, h.newest⟩, fun h => ⟨h.1, h.2⟩⟩

instance (w : World) (i : Nat) : Decidable (w.isNewest i) :=
  inferInstanceAs (Decidable (i + 1 = w.threads.length ∧ w.main = .idle ∧ w.service.mIsRunning = true))

instance (w : World) : (e : Event) → Decidable (Begins w e)
  | .vncThread i .startService =>
    inferInstanceAs (Decidable (w.threads[i]? = some .ready ∧ (w.lone = true ∨ w.isNewest i)))
  | .vncThread _ (.initializeVncFlinger _) | .vncThread _ .doSetDisplayProps | .vncThread _ .testLoop
  | .vncThread _ (.onResizeDisplay _ _) | .vncThread _ .raise | .onStartCommand _ | .acquire | .onDestroy
  | .exit | .audioThread _ => isFalse id

instance (android : Android) (state : Option World) (e : Event) : Decidable (Sustains android state e) :=
  match state with
  | none => isTrue trivial
  | some w => inferInstanceAs (Decidable ((Begins w e → w.desktop = true) ∧ ∀ w' ∈ w.step android e, Sustained w'))

variable {android : Android} {intent : Intent} {w w' : World} {s s' s'' : Fields} {q n : Nat}

/-! ### Effects of the service -/

/-- From `s` to `s'` the service has called `quit` and started threads so many times. -/
def Emits (s s' : Fields) (quits threads : Nat) : Prop :=
  ∃ new, s'.effects = s.effects ++ new ∧ new.count .quit = quits ∧ new.count .startVncThread = threads

theorem emits_refl (s : Fields) : Emits s s 0 0 := ⟨[], (List.append_nil _).symm, rfl, rfl⟩

theorem emits_trans {quits threads quits' threads' : Nat} (first : Emits s s' quits threads)
    (second : Emits s' s'' quits' threads') : Emits s s'' (quits + quits') (threads + threads') := by
  obtain ⟨new, grown, rfl, rfl⟩ := first
  obtain ⟨new', grown', rfl, rfl⟩ := second
  refine ⟨new ++ new', ?_, List.count_append, List.count_append⟩
  rw [grown', grown, List.append_assoc]

theorem emits_clipped (s : Fields) (support : Bool) : Emits s (s.clipped support) 0 0 := by
  refine ⟨clipboardEffects s support, rfl, ?_, ?_⟩ <;> unfold clipboardEffects <;> split_ifs <;> rfl

theorem emits_resized (resized : Resized s s') : Emits s s' 0 0 ∧ s'.mIsRunning = s.mIsRunning := by
  obtain ⟨_, _, _, effects, rfl, inert⟩ := resized
  refine ⟨⟨effects, rfl, ?_, ?_⟩, rfl⟩
  · exact List.count_eq_zero.mpr fun member => inert _ member
  · exact List.count_eq_zero.mpr fun member => inert _ member

theorem count_cleanup (s : Fields) :
    (cleanupEffects s).count .quit = 1 ∧ (cleanupEffects s).count .startVncThread = 0 := by
  unfold cleanupEffects
  cases s.mRemoteCursor <;> cases (s.mSupportClipboard && s.mClipboard) <;> cases s.mDisplay <;>
    cases s.mHasAudio <;> exact ⟨rfl, rfl⟩

theorem emits_cleanup {u : Unit} (ok : cleanup s = .ok u s') : Emits s s' 1 0 := by
  obtain ⟨quits, threads⟩ := count_cleanup s
  rw [cleanup_apply] at ok
  cases ok
  exact ⟨cleanupEffects s, rfl, quits, threads⟩

theorem emits_restarting (s : Fields) (new : Settings) : Emits s (s.restarting new) 1 0 := by
  have clipped := emits_clipped s new.mSupportClipboard
  have cleaned := emits_cleanup (cleanup_apply ((s.clipped new.mSupportClipboard).restarted new))
  have restarted : Emits (s.clipped new.mSupportClipboard) (s.restarting new) 1 0 := cleaned
  exact emits_trans clipped restarted

theorem emits_received (received : receive android intent s = .ok true s') : ∃ quits, Emits s s' quits 0 := by
  rcases received_acquiring received with ⟨_, rfl⟩ | ⟨_, _, rfl⟩
  · exact ⟨0, emits_refl s⟩
  · exact ⟨1, emits_restarting s _⟩

theorem emits_inPlace (received : receive android intent s = .ok false s') :
    Emits s s' 0 0 ∧ s'.mIsRunning = s.mIsRunning := by
  obtain ⟨running, resized⟩ := received_inPlace received
  obtain ⟨emits, same⟩ := emits_resized resized
  exact ⟨emits_trans (emits_clipped s _) emits, same⟩

theorem emits_shown (s : Fields) (android : Android) : Emits s (s.shown android) 0 0 := by
  unfold Fields.shown
  split
  · exact emits_refl s
  · split
    · exact ⟨_, rfl, rfl, rfl⟩
    · exact ⟨[], (List.append_nil _).symm, rfl, rfl⟩

theorem emits_acquire {u : Unit} (ok : acquire android s = .ok u s') : Emits s s' 0 1 := by
  obtain ⟨_, rfl⟩ := acquire_returns ok
  have started : Emits (s.shown android) (s.shown android).started 0 1 := by
    refine ⟨startEffects (s.shown android), rfl, ?_, ?_⟩ <;> unfold startEffects <;>
      cases (s.shown android).mSupportClipboard <;> cases (s.shown android).mHasAudio <;>
      cases (s.shown android).mRemoteCursor <;> rfl
  have notified : Emits (s.shown android).started (s.acquired android) 0 0 := ⟨_, rfl, rfl, rfl⟩
  exact emits_trans (emits_shown s android) (emits_trans started notified)

theorem emits_doSetDisplayProps {u : Unit} (ok : doSetDisplayProps android s = .ok u s') :
    Emits s s' 0 0 ∧ s'.mIsRunning = s.mIsRunning := by
  rw [doSetDisplayProps, Outcomes.bind_ok (Outcomes.get_apply s)] at ok
  split at ok
  · cases ok
    exact ⟨⟨_, rfl, rfl, rfl⟩, rfl⟩
  · cases held : s.mDisplay with
    | none =>
      rw [held] at ok
      cases ok
    | some display =>
      rw [held] at ok
      cases ok
      exact ⟨⟨_, rfl, rfl, rfl⟩, rfl⟩

/-! ### Effects on the world -/

structure Grows (w w' : World) (quits threads : Nat) : Prop where
  desktop : w'.desktop = w.desktop
  flag : w'.gCaughtSignal = (w.gCaughtSignal || decide (0 < quits))
  quits : w'.quits = w.quits + quits
  threads : w'.threads = w.threads ++ List.replicate threads .created

theorem handle_service (w : World) (e : Effect) : (w.handle e).service = w.service ∧
    (w.handle e).main = w.main ∧ (w.handle e).desktop = w.desktop := by
  cases e <;> exact ⟨rfl, rfl, rfl⟩

theorem handleAll_service (w : World) (new : List Effect) : (new.foldl World.handle w).service = w.service ∧
    (new.foldl World.handle w).main = w.main ∧ (new.foldl World.handle w).desktop = w.desktop := by
  induction new generalizing w with
  | nil => exact ⟨rfl, rfl, rfl⟩
  | cons e rest ih =>
    obtain ⟨service, main, desktop⟩ := handle_service w e
    obtain ⟨service', main', desktop'⟩ := ih (w.handle e)
    exact ⟨service'.trans service, main'.trans main, desktop'.trans desktop⟩

theorem handleAll_flag (w : World) (new : List Effect) :
    (new.foldl World.handle w).gCaughtSignal = (w.gCaughtSignal || decide (0 < new.count .quit)) := by
  induction new generalizing w with
  | nil => simp
  | cons e rest ih =>
    rw [List.foldl_cons, ih]
    cases e <;> simp [World.handle]

theorem handleAll_threads (w : World) (new : List Effect) :
    (new.foldl World.handle w).threads =
      w.threads ++ List.replicate (new.count .startVncThread) .created := by
  induction new generalizing w with
  | nil => simp
  | cons e rest ih =>
    rw [List.foldl_cons, ih]
    cases e <;> simp [World.handle, List.replicate_succ]

theorem grows_update (emits : Emits w.service s q n) :
    Grows w (w.update s) q n ∧ (w.update s).service = s ∧ (w.update s).main = w.main := by
  obtain ⟨new, grown, rfl, rfl⟩ := emits
  have counted : s.effects.count .quit = w.service.effects.count .quit + new.count .quit := by
    rw [grown, List.count_append]
  have handled : w.update s = new.foldl World.handle { w with service := s } := by
    rw [World.update, grown, List.drop_left]
  obtain ⟨service, main, desktop⟩ := handleAll_service { w with service := s } new
  rw [handled]
  refine ⟨⟨desktop, handleAll_flag _ new, ?_, handleAll_threads _ new⟩, service, main⟩
  rw [World.quits, service]
  exact counted

/-! ### The invariant -/

/-- The stop flag remembers every `quit` of the process, and nothing else takes a desktop away. -/
structure Consistent (w : World) : Prop where
  flag : w.gCaughtSignal = true ↔ 0 < w.quits
  began : ∀ began lone, .serving began lone ∈ w.threads → began ≤ w.quits
  desktop : w.gCaughtSignal = false → (.initialized ∈ w.threads ∨ .ready ∈ w.threads) → w.desktop = true

theorem consistent_grows (consistent : Consistent w) (grows : Grows w w' q n) : Consistent w' := by
  have old : ∀ t ∈ w'.threads, t ∈ w.threads ∨ t = .created := by
    intro t member
    rw [grows.threads] at member
    exact (List.mem_append.mp member).imp id fun fresh => List.eq_of_mem_replicate fresh
  constructor
  · rw [grows.flag, grows.quits, Bool.or_eq_true, consistent.flag, decide_eq_true_iff]
    omega
  · intro began lone member
    have bound := consistent.began began lone ((old _ member).resolve_right (by simp))
    rw [grows.quits]
    omega
  · intro clear waiting
    rw [grows.flag, Bool.or_eq_false_iff] at clear
    rw [grows.desktop]
    refine consistent.desktop clear.1 (waiting.imp ?_ ?_)
    · exact fun member => (old _ member).resolve_right (by simp)
    · exact fun member => (old _ member).resolve_right (by simp)

theorem obeys_grows (consistent : Consistent w) (grows : Grows w w' q n)
    (obey : ∀ t ∈ w.threads, t.Obeys w.gCaughtSignal w.quits) :
    ∀ t ∈ w'.threads, t.Obeys w'.gCaughtSignal w'.quits := by
  intro t member
  rw [grows.threads] at member
  rcases List.mem_append.mp member with member | fresh
  · have before := obey t member
    cases t with
    | serving began lone =>
      cases lone with
      | false => trivial
      | true =>
        intro caught
        have bound := consistent.began began true member
        rw [grows.flag, Bool.or_eq_true, decide_eq_true_iff] at caught
        rw [grows.quits]
        rcases caught with caught | more
        · have later : began < w.quits := before caught
          omega
        · omega
    | left began ended lone => cases lone <;> exact before
    | created => trivial
    | initialized => trivial
    | ready => trivial
  · rw [List.eq_of_mem_replicate fresh]
    trivial

theorem sustained_grows (consistent : Consistent w) (sustained : Sustained w) (grows : Grows w w' q n)
    (newest : w'.main = .idle → w'.service.mIsRunning = true →
      ∃ t ∈ w'.threads.getLast?, t.Serves w'.gCaughtSignal) :
    Sustained w' :=
  ⟨obeys_grows consistent grows sustained.calls, newest⟩

/-- A step that calls neither `quit` nor a thread leaves the newest thread as it was. -/
theorem newest_quiet (sustained : Sustained w) (grows : Grows w w' 0 0) (main : w'.main = w.main)
    (running : w'.service.mIsRunning = w.service.mIsRunning) (idle : w'.main = .idle)
    (runs : w'.service.mIsRunning = true) : ∃ t ∈ w'.threads.getLast?, t.Serves w'.gCaughtSignal := by
  have flag : w'.gCaughtSignal = w.gCaughtSignal := by simpa using grows.flag
  have threads : w'.threads = w.threads := by simpa using grows.threads
  rw [flag, threads]
  exact sustained.newest (main.symm.trans idle) (running.symm.trans runs)

/-! ### Steps of one thread -/

variable {i : Nat} {t t' : VncThread} {desktop : Bool}

theorem consistent_advance (consistent : Consistent w)
    (began : ∀ began lone, t' = .serving began lone → began ≤ w.quits)
    (waits : w.gCaughtSignal = false → (t' = .initialized ∨ t' = .ready) ∨
      (.initialized ∈ w.threads ∨ .ready ∈ w.threads) → desktop = true) :
    Consistent (w.advance desktop i t') := by
  constructor
  · exact consistent.flag
  · intro count lone member
    rcases List.mem_or_eq_of_mem_set member with old | same
    · exact consistent.began count lone old
    · exact began count lone same.symm
  · intro clear waiting
    refine waits clear ?_
    rcases waiting with member | member
    · rcases List.mem_or_eq_of_mem_set member with old | same
      · exact Or.inr (Or.inl old)
      · exact Or.inl (Or.inl same.symm)
    · rcases List.mem_or_eq_of_mem_set member with old | same
      · exact Or.inr (Or.inr old)
      · exact Or.inl (Or.inr same.symm)

theorem sustained_advance (sustained : Sustained w) (obeys : t'.Obeys w.gCaughtSignal w.quits)
    (serves : w.isNewest i → t'.Serves w.gCaughtSignal) : Sustained (w.advance desktop i t') := by
  constructor
  · intro t member
    rcases List.mem_or_eq_of_mem_set member with old | rfl
    · exact sustained.calls t old
    · exact obeys
  · intro idle running
    obtain ⟨last, newest, lastServes⟩ := sustained.newest idle running
    rw [Option.mem_def, List.getLast?_eq_getElem?] at newest
    have bound : w.threads.length - 1 < w.threads.length := (List.getElem?_eq_some_iff.mp newest).1
    have place : (w.threads.set i t').getLast? =
        if i = w.threads.length - 1 then some t' else w.threads[w.threads.length - 1]? := by
      rw [List.getLast?_eq_getElem?, List.length_set, List.getElem?_set]
      split
      · rename_i here
        rw [here, if_pos bound]
      · rfl
    by_cases here : i = w.threads.length - 1
    · refine ⟨t', by rw [Option.mem_def]; exact place.trans (if_pos here), ?_⟩
      exact serves ⟨by omega, idle, running⟩
    · refine ⟨last, ?_, lastServes⟩
      rw [Option.mem_def]
      exact (place.trans (if_neg here)).trans newest

/-! ### What a step can do -/

/-- The ways a step leaves the process alive: the service runs on, or one thread advances. -/
inductive Change (w : World) : Event → World → Prop
  | stays {e : Event} : Change w e w
  | runs {e : Event} {s : Fields} {q n : Nat} {main : MainThread} (emits : Emits w.service s q n)
      (settles : main = .idle →
        0 < n ∨ q = 0 ∧ n = 0 ∧ w.main = .idle ∧ s.mIsRunning = w.service.mIsRunning) :
      Change w e { w.update s with main := main }
  | initializes {e : Event} {i : Nat} : Change w e (w.advance true i .initialized)
  | prepares {e : Event} {i : Nat} {s : Fields} (place : w.threads[i]? = some .initialized)
      (emits : Emits w.service s 0 0) (running : s.mIsRunning = w.service.mIsRunning) :
      Change w e ((w.update s).advance w.desktop i .ready)
  | begins {i : Nat} (place : w.threads[i]? = some .ready) (desktop : w.desktop = true) :
      Change w (.vncThread i .startService) (w.advance true i (.serving w.quits w.lone))
  | leaves {e : Event} {i began : Nat} {lone : Bool} (place : w.threads[i]? = some (.serving began lone))
      (caught : w.gCaughtSignal = true) : Change w e (w.advance false i (.left began w.quits lone))

theorem change_quiet {e : Event} (emits : Emits w.service s 0 0)
    (running : s.mIsRunning = w.service.mIsRunning) : Change w e (w.update s) := by
  have main : (w.update s).main = w.main := (grows_update emits).2.2
  have kept : Change w e { w.update s with main := (w.update s).main } :=
    .runs emits fun idle => Or.inr ⟨rfl, rfl, main.symm.trans idle, running⟩
  exact kept

theorem change_move {m : Move} (place : w.threads[i]? = some t) (moved : w.move android i t m = some w') :
    Change w (.vncThread i m) w' := by
  have stays : some w = some w' → Change w (.vncThread i m) w' := by
    rintro ⟨⟩
    exact .stays
  cases m with
  | initializeVncFlinger exitCode =>
    simp only [World.move] at moved
    split at moved
    · split at moved
      · cases moved
        exact .initializes
      · cases moved
    · exact stays moved
  | doSetDisplayProps =>
    simp only [World.move] at moved
    split at moved
    · split at moved
      · rename_i ok
        cases moved
        obtain ⟨emits, running⟩ := emits_doSetDisplayProps ok
        exact .prepares place emits running
      · cases moved
    · exact stays moved
  | startService =>
    simp only [World.move] at moved
    split at moved
    · split at moved
      · rename_i desktop
        cases moved
        exact .begins place desktop
      · cases moved
    · exact stays moved
  | testLoop =>
    simp only [World.move] at moved
    split at moved
    · split at moved
      · rename_i caught
        cases moved
        exact .leaves place caught
      · exact stays moved
    · exact stays moved
  | onResizeDisplay width height =>
    simp only [World.move] at moved
    split at moved
    · split at moved
      · rename_i ok
        cases moved
        obtain ⟨emits, running⟩ := emits_resized (onResizeDisplay_resized ok)
        exact change_quiet emits running
      · cases moved
    · exact stays moved
  | raise =>
    simp only [World.move] at moved
    split at moved
    · cases moved
    · exact stays moved

theorem change_step {e : Event} (stepped : w.step android e = some w') : Change w e w' := by
  cases e with
  | onStartCommand intent =>
    simp only [World.step] at stepped
    split at stepped
    · rename_i idle
      split at stepped
      · rename_i received
        cases stepped
        obtain ⟨quits, emits⟩ := emits_received received
        exact .runs emits (fun now => by cases now)
      · rename_i s received
        cases stepped
        obtain ⟨emits, running⟩ := emits_inPlace received
        exact change_quiet emits running
      · cases stepped
    · cases stepped
      exact .stays
  | acquire =>
    simp only [World.step] at stepped
    split at stepped
    · split at stepped
      · rename_i ok
        cases stepped
        exact .runs (emits_acquire ok) fun _ => Or.inl Nat.one_pos
      · cases stepped
    · cases stepped
      exact .stays
  | onDestroy =>
    simp only [World.step] at stepped
    split at stepped
    · split at stepped
      · rename_i ok
        cases stepped
        exact .runs (emits_cleanup ok) (fun now => by cases now)
      · cases stepped
    · cases stepped
      exact .stays
  | exit =>
    simp only [World.step] at stepped
    split at stepped
    · cases stepped
    · cases stepped
      exact .stays
  | audioThread exitCode =>
    simp only [World.step] at stepped
    split at stepped
    · cases stepped
      exact .stays
    · cases stepped
  | vncThread i m =>
    simp only [World.step] at stepped
    split at stepped
    · rename_i place
      exact change_move place stepped
    · cases stepped
      exact .stays

theorem grows_runs (emits : Emits w.service s q n) (main : MainThread) :
    Grows w { w.update s with main := main } q n := by
  obtain ⟨grows, _, _⟩ := grows_update emits
  exact ⟨grows.desktop, grows.flag, grows.quits, grows.threads⟩

theorem consistent_change {e : Event} (consistent : Consistent w) (change : Change w e w') : Consistent w' := by
  cases change with
  | stays => exact consistent
  | runs emits settles => exact consistent_grows consistent (grows_runs emits _)
  | initializes => exact consistent_advance consistent (by simp) fun _ _ => rfl
  | prepares place emits running =>
    obtain ⟨grows, _, _⟩ := grows_update emits
    refine consistent_advance (consistent_grows consistent grows) (by simp) fun clear _ => ?_
    rw [grows.flag, Bool.or_eq_false_iff] at clear
    exact consistent.desktop clear.1 (Or.inl (List.mem_of_getElem? place))
  | begins place desktop =>
    refine consistent_advance consistent ?_ fun _ _ => rfl
    rintro began lone ⟨⟩
    exact Nat.le_refl _
  | leaves place caught =>
    refine consistent_advance consistent (by simp) fun clear _ => ?_
    rw [caught] at clear
    cases clear

theorem sustained_change {e : Event} (consistent : Consistent w) (sustained : Sustained w)
    (first : Begins w e → w.quits = 0) (change : Change w e w') : Sustained w' := by
  cases change with
  | stays => exact sustained
  | runs emits settles =>
    rename_i s q n main
    have grows := grows_runs emits main
    have service : (w.update s).service = s := (grows_update emits).2.1
    refine sustained_grows consistent sustained grows fun idle running => ?_
    rcases settles idle with threads | ⟨rfl, rfl, wasIdle, same⟩
    · refine ⟨.created, ?_, trivial⟩
      rw [Option.mem_def, grows.threads, List.getLast?_append, List.getLast?_replicate, if_neg (by omega)]
      rfl
    · refine newest_quiet sustained grows (idle.trans wasIdle.symm) ?_ idle running
      show (w.update s).service.mIsRunning = _
      rw [service, same]
  | initializes => exact sustained_advance sustained trivial fun _ => trivial
  | prepares place emits running =>
    obtain ⟨grows, service, main⟩ := grows_update emits
    have same := (congrArg Fields.mIsRunning service).trans running
    have kept := sustained_grows consistent sustained grows (newest_quiet sustained grows main same)
    exact sustained_advance kept trivial fun _ => trivial
  | begins place desktop =>
    rename_i i
    -- a call that begins lone or as the newest begins with the flag down
    have clear : (w.lone = true ∨ w.isNewest i) → w.gCaughtSignal = false := by
      intro called
      have none := first ⟨place, called⟩
      rw [← Bool.not_eq_true, consistent.flag, none]
      exact Nat.lt_irrefl 0
    refine sustained_advance sustained ?_ fun newest => clear (Or.inr newest)
    cases alone : w.lone with
    | false => trivial
    | true =>
      intro caught
      rw [clear (Or.inl alone)] at caught
      cases caught
  | leaves place caught =>
    rename_i began lone
    have obeys := sustained.calls _ (List.mem_of_getElem? place)
    refine sustained_advance sustained ?_ fun newest => ?_
    · cases lone with
      | false => trivial
      | true => exact obeys caught
    · obtain ⟨last, isLast, serves⟩ := sustained.newest newest.2.1 newest.2.2
      have same : last = .serving began lone := by
        rw [Option.mem_def, List.getLast?_eq_getElem?, ← newest.1, Nat.add_sub_cancel, place] at isLast
        exact (Option.some.inj isLast).symm
      rw [same] at serves
      exact Bool.false_ne_true (serves.symm.trans caught)

/-! ### Runs -/

theorem first_of_sustains {e : Event} (consistent : Consistent w) (sustains : Sustains android (some w) e)
    (begins : Begins w e) : w.quits = 0 := by
  obtain ⟨hasDesktop, after⟩ := sustains
  have desktop := hasDesktop begins
  unfold Begins at begins
  split at begins
  · rename_i i
    obtain ⟨place, called⟩ := begins
    have moved : w.step android (.vncThread i .startService) =
        some (w.advance true i (.serving w.quits w.lone)) := by
      simp only [World.step, place, World.move]
      rw [if_pos desktop]
    have sustained := after _ moved
    have bound : i < w.threads.length := (List.getElem?_eq_some_iff.mp place).1
    have down : w.gCaughtSignal = false := by
      rcases called with alone | newest
      · have obeys := sustained.calls (.serving w.quits w.lone) (List.mem_set bound _)
        rw [alone] at obeys
        apply Bool.eq_false_iff.mpr
        intro caught
        exact Nat.lt_irrefl w.quits (obeys caught)
      · obtain ⟨last, isLast, serves⟩ := sustained.newest newest.2.1 newest.2.2
        have same : last = .serving w.quits w.lone := by
          have place' : (w.threads.set i (.serving w.quits w.lone)).getLast? = some (.serving w.quits w.lone) := by
            rw [List.getLast?_eq_getElem?, List.length_set, ← newest.1, Nat.add_sub_cancel,
              List.getElem?_set_self bound]
          exact Option.some.inj (isLast.symm.trans place')
        rw [same] at serves
        exact serves
    rw [← Bool.not_eq_true, consistent.flag] at down
    omega
  · exact begins.elim

def Sound : Option World → Prop
  | none => True
  | some w => Consistent w ∧ Sustained w

theorem sustains_iff (state : Option World) (e : Event) (sound : Sound state) :
    Sustains android state e ↔ FirstSession state e := by
  cases state with
  | none => exact Iff.rfl
  | some w =>
    obtain ⟨consistent, sustained⟩ := sound
    constructor
    · exact fun sustains begins => first_of_sustains consistent sustains begins
    · intro first
      refine ⟨fun begins => ?_, fun w' stepped => ?_⟩
      · have none := first begins
        unfold Begins at begins
        split at begins
        · refine consistent.desktop ?_ (Or.inr (List.mem_of_getElem? begins.1))
          rw [← Bool.not_eq_true, consistent.flag, none]
          exact Nat.lt_irrefl 0
        · exact begins.elim
      · exact sustained_change consistent sustained first (change_step stepped)

theorem sound_step (state : Option World) (e : Event) (sound : Sound state)
    (sustains : Sustains android state e) : Sound (processStep android state e) := by
  cases state with
  | none => trivial
  | some w =>
    cases stepped : w.step android e with
    | none =>
      show Sound (w.step android e)
      rw [stepped]
      trivial
    | some w' =>
      show Sound (w.step android e)
      rw [stepped]
      exact ⟨consistent_change sound.1 (change_step stepped), sustains.2 w' stepped⟩

/-- Along every run of the process, sessions last until their own `quit` exactly when none begins after
a `quit`. -/
theorem sessions_sustained_along_run (android : Android) (run : List Event) :
    Runs.Along (processStep android) (Sustains android) (some {}) run ↔
      Runs.Along (processStep android) FirstSession (some {}) run := by
  have consistent : Consistent {} := ⟨by simp [World.quits], by simp, by simp⟩
  have sustained : Sustained {} := ⟨by simp, by simp⟩
  have fresh : Sound (some {}) := ⟨consistent, sustained⟩
  exact Runs.along_iff (I := Sound) fresh (fun state e _ => sustains_iff state e)
    (fun state e _ => sound_step state e)

def session (i : Nat) : List Event :=
  [.vncThread i (.initializeVncFlinger 0), .vncThread i .doSetDisplayProps, .vncThread i .startService]

/-- The first session ends by the restart's `quit`, and the second then leaves at its first test. -/
theorem restarted_session_leaves :
    ¬Runs.Along (processStep .calm) (Sustains .calm) (some {})
      ([.onStartCommand {}, .acquire] ++ session 0 ++ [.vncThread 0 .testLoop,
        .onStartCommand { hasAudio := some false }, .vncThread 0 .testLoop, .acquire] ++ session 1) ∧
    (List.foldl (processStep .calm) (some {})
      ([.onStartCommand {}, .acquire] ++ session 0 ++ [.vncThread 0 .testLoop,
        .onStartCommand { hasAudio := some false }, .vncThread 0 .testLoop, .acquire] ++ session 1 ++
        [.vncThread 1 .testLoop])).map World.threads = some [.left 0 1 true, .left 1 1 true] := by
  decide

end VncFlinger.Service
