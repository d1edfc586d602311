import VncFlinger.Service.Sessions

/-!
# Whose environment the native side calls Java in

The callbacks into Java go through `gEnv`. An environment belongs to one thread, while `gEnv` is one
global: each call of `initializeVncFlinger` and of `startService` stores its own, and a call of
`startService` that leaves stores none. A thread counts as in its loop until then.
-/

namespace VncFlinger.Service

/-- The process, and the thread that `gEnv` is the environment of. -/
structure Bridge where
  world : World := {}
  gEnv : Option Nat := none
  deriving DecidableEq, Repr

/-- What a step stores in `gEnv`, if it does. -/
def World.stores (w : World) : Event → Option (Option Nat)
  | .vncThread i (.initializeVncFlinger _) => if w.threads[i]? = some .created then some (some i) else none
  | .vncThread i .startService => if w.threads[i]? = some .ready then some (some i) else none
  | .vncThread i .testLoop =>
    if (w.threads[i]?.any VncThread.isServing && w.gCaughtSignal) = true then some none else none
  | _ => none

def bridgeStep (android : Android) : Option Bridge → Event → Option Bridge
  | none, _ => none
  | some b, e => (b.world.step android e).map fun w => ⟨w, (b.world.stores e).getD b.gEnv⟩

/-- Whatever callback comes next, it comes in the environment of the thread it is made on. -/
def Bridge.Own (b : Bridge) : Prop :=
  ∀ i t, b.world.threads[i]? = some t → t.isServing = true → b.gEnv = some i

def OwnAfter (android : Android) (b : Option Bridge) (e : Event) : Prop := ∀ b' ∈ bridgeStep android b e, b'.Own

/-- A thread initialises the desktop or enters `startService` with no other in its loop. -/
def EntersAlone : Option Bridge → Event → Prop
  | some b, .vncThread i (.initializeVncFlinger exitCode) =>
    b.world.threads[i]? = some .created → exitCode = 0 → b.world.lone = true
  | some b, .vncThread i .startService =>
    b.world.threads[i]? = some .ready → b.world.desktop = true → b.world.lone = true
  | _, _ => True

variable {android : Android} {w w' : World} {e : Event} {i j : Nat} {t t' : VncThread} {desktop : Bool}

theorem lone_iff : w.lone = true ↔
    ∀ (j : Nat) (t : VncThread), w.threads[j]? = some t → t.isServing = false := by
  unfold World.lone
  rw [List.all_eq_true]
  constructor
  · intro all j t here
    simpa using all t (List.mem_of_getElem? here)
  · intro none t member
    obtain ⟨j, here⟩ := List.getElem?_of_mem member
    simpa using none j t here

theorem advance_thread (here : (w.advance desktop i t').threads[j]? = some t) :
    i = j ∧ t = t' ∨ w.threads[j]? = some t := by
  have place : (w.threads.set i t')[j]? = some t := here
  rw [List.getElem?_set] at place
  split at place
  · rename_i same
    split at place
    · cases place
      exact Or.inl ⟨same, rfl⟩
    · cases place
  · exact Or.inr place

/-- A thread that serves has served before, unless it enters its loop in the step. -/
theorem served_before (change : Change w e w') (here : w'.threads[j]? = some t) (serving : t.isServing = true) :
    w.threads[j]? = some t ∨ e = .vncThread j .startService ∧ w.threads[j]? = some .ready := by
  cases change with
  | stays => exact Or.inl here
  | @runs _ s q n main emits settles =>
    rw [(grows_runs emits main).threads] at here
    by_cases old : j < w.threads.length
    · rw [List.getElem?_append_left old] at here
      exact Or.inl here
    · rw [List.getElem?_append_right (Nat.not_lt.mp old)] at here
      rw [List.eq_of_mem_replicate (List.mem_of_getElem? here)] at serving
      cases serving
  | initializes =>
    rcases advance_thread here with ⟨_, rfl⟩ | old
    · cases serving
    · exact Or.inl old
  | prepares place emits running =>
    have threads : (w.update _).threads = _ := (grows_update emits).1.threads
    rcases advance_thread here with ⟨_, rfl⟩ | old
    · cases serving
    · rw [threads, List.replicate_zero, List.append_nil] at old
      exact Or.inl old
  | begins place desktop =>
    rcases advance_thread here with ⟨rfl, _⟩ | old
    · exact Or.inr ⟨rfl, place⟩
    · exact Or.inl old
  | leaves place caught =>
    rcases advance_thread here with ⟨_, rfl⟩ | old
    · cases serving
    · exact Or.inl old

/-! ### One step -/

variable {b b' : Bridge}

theorem bridgeStep_some (stepped : b' ∈ bridgeStep android (some b) e) :
    b.world.step android e = some b'.world ∧ b'.gEnv = (b.world.stores e).getD b.gEnv := by
  obtain ⟨w, step, rfl⟩ := Option.map_eq_some_iff.mp stepped
  exact ⟨step, rfl⟩

/-- A step that stores nothing lets no thread enter its loop. -/
theorem own_kept (own : b.Own) (stepped : b' ∈ bridgeStep android (some b) e) (stores : b.world.stores e = none) :
    b'.Own := by
  obtain ⟨step, env⟩ := bridgeStep_some stepped
  rw [stores] at env
  intro j t here serving
  rcases served_before (change_step step) here serving with before | ⟨rfl, ready⟩
  · exact env.trans (own j t before serving)
  · rw [World.stores, if_pos ready] at stores
    cases stores

/-- The environment of the thread that enters is that of every other one only if there is none. -/
theorem entered_own_iff (place : w.threads[i]? = some t) (idle : t.isServing = false) :
    (⟨w.advance true i t', some i⟩ : Bridge).Own ↔ w.lone = true := by
  rw [lone_iff]
  constructor
  · intro own j other here
    by_contra serving
    have differs : i ≠ j := by
      rintro rfl
      rw [place] at here
      cases here
      exact serving idle
    have still : (w.threads.set i t')[j]? = some other := (List.getElem?_set_ne differs).trans here
    have same := own j other still (Bool.not_eq_false _ ▸ serving)
    exact differs (Option.some.inj same)
  · intro none j other here serving
    rcases advance_thread here with ⟨rfl, _⟩ | old
    · rfl
    · rw [none j other old] at serving
      cases serving

theorem initializes_own_iff (own : b.Own) (exitCode : Int32) :
    OwnAfter android (some b) (.vncThread i (.initializeVncFlinger exitCode)) ↔
      EntersAlone (some b) (.vncThread i (.initializeVncFlinger exitCode)) := by
  by_cases created : b.world.threads[i]? = some .created
  · have moved : b.world.step android (.vncThread i (.initializeVncFlinger exitCode)) =
        if exitCode = 0 then some (b.world.advance true i .initialized) else none := by
      simp only [World.step, created]
      rfl
    have stores : b.world.stores (.vncThread i (.initializeVncFlinger exitCode)) = some (some i) := if_pos created
    unfold OwnAfter bridgeStep EntersAlone
    simp only [moved, stores]
    by_cases accepted : exitCode = 0
    · simpa [accepted, created] using entered_own_iff created rfl
    · simp [accepted]
  · refine iff_of_true (fun b' stepped => own_kept own stepped (if_neg created)) ?_
    exact fun place => absurd place created

theorem startService_own_iff (own : b.Own) :
    OwnAfter android (some b) (.vncThread i .startService) ↔ EntersAlone (some b) (.vncThread i .startService) := by
  by_cases ready : b.world.threads[i]? = some .ready
  · have moved : b.world.step android (.vncThread i .startService) =
        if b.world.desktop = true then some (b.world.advance true i (.serving b.world.quits b.world.lone))
        else none := by
      simp only [World.step, ready]
      rfl
    have stores : b.world.stores (.vncThread i .startService) = some (some i) := if_pos ready
    unfold OwnAfter bridgeStep EntersAlone
    simp only [moved, stores]
    by_cases desktop : b.world.desktop = true
    · simpa [desktop, ready] using entered_own_iff ready rfl
    · simp [desktop]
  · refine iff_of_true (fun b' stepped => own_kept own stepped (if_neg ready)) ?_
    exact fun place => absurd place ready

/-- The call that leaves was the only one, as the environment was its own. -/
theorem testLoop_own (own : b.Own) : OwnAfter android (some b) (.vncThread i .testLoop) := by
  intro b' stepped
  by_cases leaves : (b.world.threads[i]?.any VncThread.isServing && b.world.gCaughtSignal) = true
  · obtain ⟨serves, caught⟩ := (Bool.and_eq_true _ _).mp leaves
    obtain ⟨t, place, serving⟩ := (Option.any_eq_true _ _).mp serves
    obtain ⟨step, _⟩ := bridgeStep_some stepped
    cases t with
    | serving began lone =>
      have left : b'.world = b.world.advance false i (.left began b.world.quits lone) := by
        simp only [World.step, place, World.move, caught, if_true] at step
        exact (Option.some.inj step).symm
      intro j other here serving'
      rw [left] at here
      rcases advance_thread here with ⟨_, rfl⟩ | old
      · cases serving'
      · have same : i = j := Option.some.inj ((own i _ place rfl).symm.trans (own j other old serving'))
        have bound := (List.getElem?_eq_some_iff.mp place).1
        have place' : (b.world.threads.set i (.left began b.world.quits lone))[j]? = some other := here
        rw [← same, List.getElem?_set_self bound] at place'
        cases place'
        cases serving'
    | created => cases serving
    | initialized => cases serving
    | ready => cases serving
    | left began ended lone => cases serving
  · exact own_kept own stepped (if_neg leaves)

theorem ownAfter_iff (b : Option Bridge) (own : ∀ b' ∈ b, b'.Own) (e : Event) :
    OwnAfter android b e ↔ EntersAlone b e := by
  cases b with
  | none => exact iff_of_true (fun b' stepped => nomatch stepped) trivial
  | some b =>
    have own : b.Own := own b rfl
    have kept : b.world.stores e = none → OwnAfter android (some b) e := fun none b' stepped =>
      own_kept own stepped none
    cases e with
    | vncThread i m =>
      cases m with
      | initializeVncFlinger exitCode => exact initializes_own_iff own exitCode
      | startService => exact startService_own_iff own
      | testLoop => exact iff_of_true (testLoop_own own) trivial
      | doSetDisplayProps => exact iff_of_true (kept rfl) trivial
      | onResizeDisplay width height => exact iff_of_true (kept rfl) trivial
      | raise => exact iff_of_true (kept rfl) trivial
    | onStartCommand intent => exact iff_of_true (kept rfl) trivial
    | acquire => exact iff_of_true (kept rfl) trivial
    | onDestroy => exact iff_of_true (kept rfl) trivial
    | exit => exact iff_of_true (kept rfl) trivial
    | audioThread exitCode => exact iff_of_true (kept rfl) trivial

/-! ### Runs -/

/-- In any order of the threads' steps, each thread in its loop has `gEnv` for its own at every moment,
exactly when none initialises a desktop or enters the loop while another is in it. -/
theorem environments_own_iff (android : Android) (run : List Event) :
    Runs.Along (bridgeStep android) (OwnAfter android) (some {}) run ↔
      Runs.Along (bridgeStep android) EntersAlone (some {}) run := by
  refine Runs.along_iff (I := fun b : Option Bridge => ∀ b' ∈ b, b'.Own) ?_ ?_ ?_
  · rintro _ ⟨⟩ j t here
    cases here
  · exact fun b e _ own => ownAfter_iff b own e
  · exact fun b e _ _ after => after

-- a restart whose new thread is there before the old one has left
example : (List.foldl (bridgeStep .calm) (some {}) ([.onStartCommand {}, .acquire] ++ session 0 ++
    [.onStartCommand { hasAudio := some false }, .acquire, .vncThread 1 (.initializeVncFlinger 0)])).map
      (fun b => (b.gEnv, b.world.threads)) = some (some 1, [.serving 0 true, .initialized]) := by
  decide

end VncFlinger.Service
