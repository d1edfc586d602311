import VncFlinger.Library.Runs
import VncFlinger.Service.Merge

/-!
# What the service holds

The resources a run of commands has acquired and not given back, read from its effects. A restart
gives back what its new settings ask for: the audio streamer of the old ones is left running when
the new ones have none, and cursor callbacks are never unregistered.
-/

namespace VncFlinger.Service

@[ext]
structure Resources where
  audioStreamers : Nat := 0
  clipListeners : Nat := 0
  cursorCallbacks : Nat := 0
  displays : List Nat := []
  deriving DecidableEq, Repr

/-- `register n` is the number of cursor callbacks when one more has been registered on top of `n`. -/
def Resources.after (register : Nat → Nat) (r : Resources) : Effect → Resources
  | .startAudioThread => { r with audioStreamers := r.audioStreamers + 1 }
  | .endAudioStreamer => { r with audioStreamers := 0 }
  | .addClipListener => { r with clipListeners := r.clipListeners + 1 }
  | .removeClipListener => { r with clipListeners := r.clipListeners - 1 }
  | .registerCursorCallback => { r with cursorCallbacks := register r.cursorCallbacks }
  | .createVirtualDisplay display _ _ _ => { r with displays := r.displays ++ [display] }
  | .release display => { r with displays := r.displays.erase display }
  | _ => r

def Resources.afterAll (register : Nat → Nat) (r : Resources) (effects : List Effect) : Resources :=
  effects.foldl (Resources.after register) r

/-- What is held after the effects of a service's whole life. -/
def held (register : Nat → Nat) (s : Fields) : Resources := Resources.afterAll register {} s.effects

/-- The held resources are those the settings ask for. -/
structure Matches (r : Resources) (settings : Settings) : Prop where
  audio : 0 < r.audioStreamers ↔ settings.mHasAudio = true
  clipboard : r.clipListeners = if settings.mSupportClipboard then 1 else 0
  cursor : settings.mRemoteCursor = true → r.cursorCallbacks = 1
  displays : r.displays.length = if settings.mMirrorInternal then 0 else 1

/-- A run of commands; an exception ends the process. -/
def commandStep (android : Android) : Option Fields → Intent → Option Fields
  | none, _ => none
  | some s, intent =>
    match onStartCommand android intent s with
    | .ok _ s' => some s'
    | .error _ _ => none

/-- If the command leaves the service running, it holds what its settings ask for. -/
def MatchesAfter (android : Android) (register : Nat → Nat) : Option Fields → Intent → Prop
  | none, _ => True
  | some s, intent => ∀ s', onStartCommand android intent s = .ok () s' → s'.mIsRunning = true →
      Matches (held register s') s'.toSettings

def Acquires (s : Fields) (intent : Intent) : Prop :=
  s.mIsRunning = true → restarts s.toSettings (intent.merge s.toSettings) = true

/-- The fields with the extras of the intent, as far as the command takes them. -/
def asking (s : Fields) (intent : Intent) : Fields :=
  if s.mIsRunning then
    { s with toSettings :=
      { intent.merge s.toSettings with mWidth := s.mWidth, mHeight := s.mHeight, mDPI := s.mDPI } }
  else s.configured intent

/-- A command that starts or restarts the service gets its display, registers the only cursor
callback, and does not turn audio off. -/
structure Balanced (android : Android) (register : Nat → Nat) (s : Fields) (intent : Intent) : Prop where
  display : (asking s intent).mMirrorInternal = false →
    android.createVirtualDisplay s.displays (asking s intent).mWidth (asking s intent).mHeight
      (asking s intent).mDPI ≠ .null
  cursor : (asking s intent).mRemoteCursor = true → register (held register s).cursorCallbacks = 1
  audio : s.mIsRunning = true → s.mHasAudio = true → (asking s intent).mHasAudio = true

/-- The command is balanced, if it acquires at all. -/
def Balances (android : Android) (register : Nat → Nat) : Option Fields → Intent → Prop
  | none, _ => True
  | some s, intent => Acquires s intent → CanAcquire android (asking s intent) → Balanced android register s intent

variable {android : Android} {register : Nat → Nat} {intent : Intent} {s : Fields} {new : Settings}

theorem matches_iff {r : Resources} {settings : Settings} : Matches r settings ↔
    (0 < r.audioStreamers ↔ settings.mHasAudio = true) ∧
    r.clipListeners = (if settings.mSupportClipboard then 1 else 0) ∧
    (settings.mRemoteCursor = true → r.cursorCallbacks = 1) ∧
    r.displays.length = (if settings.mMirrorInternal then 0 else 1) :=
  ⟨fun h => ⟨h.audio, h.clipboard, h.cursor, h.displays⟩, fun ⟨a, b, c, d⟩ => ⟨a, b, c, d⟩⟩

instance (r : Resources) (settings : Settings) : Decidable (Matches r settings) :=
  decidable_of_iff' _ matches_iff

theorem matchesAfter_some : MatchesAfter android register (some s) intent ↔
    (Outcomes.value (onStartCommand android intent) s = some () →
      (Outcomes.after (onStartCommand android intent) s).mIsRunning = true →
        Matches (held register (Outcomes.after (onStartCommand android intent) s))
          (Outcomes.after (onStartCommand android intent) s).toSettings) := by
  unfold Outcomes.value Outcomes.after
  show (∀ s', onStartCommand android intent s = .ok () s' → s'.mIsRunning = true →
    Matches (held register s') s'.toSettings) ↔ _
  cases onStartCommand android intent s <;> simp

instance (state : Option Fields) : Decidable (MatchesAfter android register state intent) :=
  match state with
  | none => isTrue trivial
  | some _ => decidable_of_iff' _ matchesAfter_some

/-! ### Effects -/

@[simp] theorem afterAll_nil (r : Resources) : r.afterAll register [] = r := rfl

@[simp] theorem afterAll_cons (r : Resources) (e : Effect) (rest : List Effect) :
    r.afterAll register (e :: rest) = (r.after register e).afterAll register rest := rfl

theorem held_emit (s : Fields) (effects : List Effect) :
    held register (s.emit effects) = (held register s).afterAll register effects :=
  List.foldl_append

theorem after_inert {e : Effect} (inert : e.Inert) (r : Resources) : r.after register e = r := by
  cases e <;> first | rfl | exact inert.elim

theorem afterAll_inert {effects : List Effect} (inert : ∀ e ∈ effects, e.Inert) (r : Resources) :
    r.afterAll register effects = r := by
  induction effects with
  | nil => rfl
  | cons e rest ih =>
    rw [afterAll_cons, after_inert (inert e List.mem_cons_self)]
    exact ih fun e' member => inert e' (List.mem_cons_of_mem e member)

/-! ### The invariant of a running service -/

/-- What a running service holds, with the references it needs to give it back. -/
structure Holding (register : Nat → Nat) (s : Fields) : Prop where
  audio : 0 < (held register s).audioStreamers ↔ s.mHasAudio = true
  clipboard : (held register s).clipListeners = if s.mSupportClipboard then 1 else 0
  cursor : s.mRemoteCursor = true → (held register s).cursorCallbacks = 1
  mirroring : s.mMirrorInternal = true → (held register s).displays = []
  virtual : s.mMirrorInternal = false → ∃ display, s.mDisplay = some display ∧
    (held register s).displays = [display]
  fetched : s.mSupportClipboard = true → s.mClipboard = true

theorem Holding.matches (holding : Holding register s) : Matches (held register s) s.toSettings := by
  refine ⟨holding.audio, holding.clipboard, holding.cursor, ?_⟩
  cases mirror : s.mMirrorInternal with
  | true => rw [holding.mirroring mirror]; rfl
  | false =>
    obtain ⟨display, _, displays⟩ := holding.virtual mirror
    rw [displays]
    rfl

/-! ### Commands that change a running service in place -/

theorem held_clipped (s : Fields) (support : Bool) : held register (s.clipped support) =
    { held register s with clipListeners :=
      if s.mSupportClipboard = support then (held register s).clipListeners
      else if support then (held register s).clipListeners + 1 else (held register s).clipListeners - 1 } := by
  have run : held register (s.clipped support) =
      (held register s).afterAll register (clipboardEffects s support) := List.foldl_append
  rw [run]
  unfold clipboardEffects
  split_ifs <;> rfl

theorem clipped_clipboard (holding : Holding register s) (support : Bool) :
    (held register (s.clipped support)).clipListeners = if support then 1 else 0 := by
  have before := holding.clipboard
  rw [held_clipped]
  cases old : s.mSupportClipboard <;> cases support <;> simp [old] at before ⊢ <;> omega

theorem clipped_fetched (holding : Holding register s) (support : Bool) :
    support = true → (s.clipped support).mClipboard = true := by
  intro wanted
  have before := holding.fetched
  show (s.mClipboard || s.mSupportClipboard != support) = true
  rw [wanted]
  cases old : s.mSupportClipboard with
  | true => simp [before old]
  | false => simp

theorem holding_inPlace (holding : Holding register s) {support : Bool} {s' : Fields}
    (resized : Resized (s.clipped support) s') : Holding register s' := by
  obtain ⟨width, height, dpi, effects, rfl, inert⟩ := resized
  have same : held register (((s.clipped support).sized width height dpi).emit effects) =
      held register (s.clipped support) := by
    rw [held_emit, afterAll_inert inert]
    rfl
  have clipboard := clipped_clipboard holding support
  constructor
  · rw [same, held_clipped]
    exact holding.audio
  · rw [same]
    exact clipboard
  · rw [same, held_clipped]
    exact holding.cursor
  · rw [same, held_clipped]
    exact holding.mirroring
  · rw [same, held_clipped]
    exact holding.virtual
  · exact clipped_fetched holding support

/-! ### Commands that acquire -/

/-- Nothing but audio streamers and cursor callbacks is held when an acquisition begins. -/
structure Clean (register : Nat → Nat) (s : Fields) : Prop where
  clipboard : (held register s).clipListeners = 0
  displays : (held register s).displays = []

theorem held_shown (s : Fields) (android : Android) : held register (s.shown android) =
    { held register s with displays := (held register s).displays ++
      if s.mMirrorInternal = false ∧
        android.createVirtualDisplay s.displays s.mWidth s.mHeight s.mDPI = .display
      then [s.displays] else [] } := by
  unfold Fields.shown
  cases mirror : s.mMirrorInternal with
  | true => simp
  | false =>
    cases creation : android.createVirtualDisplay s.displays s.mWidth s.mHeight s.mDPI with
    | display => exact List.foldl_append
    | null => simp [held]
    | throws => simp [held]

theorem held_started (s : Fields) : held register s.started =
    { held register s with
      clipListeners := (held register s).clipListeners + if s.mSupportClipboard then 1 else 0
      audioStreamers := (held register s).audioStreamers + if s.mHasAudio then 1 else 0
      cursorCallbacks := if s.mRemoteCursor then register (held register s).cursorCallbacks
        else (held register s).cursorCallbacks } := by
  have run : held register s.started = (held register s).afterAll register (startEffects s) := List.foldl_append
  rw [run]
  unfold startEffects
  cases s.mSupportClipboard <;> cases s.mHasAudio <;> cases s.mRemoteCursor <;> rfl

theorem held_acquired (clean : Clean register s) : held register (s.acquired android) =
    { audioStreamers := (held register s).audioStreamers + if s.mHasAudio then 1 else 0
      clipListeners := if s.mSupportClipboard then 1 else 0
      cursorCallbacks := if s.mRemoteCursor then register (held register s).cursorCallbacks
        else (held register s).cursorCallbacks
      displays := if s.mMirrorInternal = false ∧
          android.createVirtualDisplay s.displays s.mWidth s.mHeight s.mDPI = .display
        then [s.displays] else [] } := by
  have settings := (shown_settings s android).1
  have support : (s.shown android).mSupportClipboard = s.mSupportClipboard :=
    congrArg Settings.mSupportClipboard settings
  have audio : (s.shown android).mHasAudio = s.mHasAudio := congrArg Settings.mHasAudio settings
  have cursor : (s.shown android).mRemoteCursor = s.mRemoteCursor := congrArg Settings.mRemoteCursor settings
  have run : held register (s.acquired android) = held register (s.shown android).started :=
    held_emit (s.shown android).started [.startForeground]
  rw [run, held_started, support, audio, cursor, held_shown, clean.clipboard, clean.displays, List.nil_append,
    Nat.zero_add]

/-- The display is created, the cursor callback is the only one, and an audio streamer still held
is one that is wanted. -/
structure Fulfils (android : Android) (register : Nat → Nat) (s : Fields) : Prop where
  display : s.mMirrorInternal = false →
    android.createVirtualDisplay s.displays s.mWidth s.mHeight s.mDPI ≠ .null
  cursor : s.mRemoteCursor = true → register (held register s).cursorCallbacks = 1
  audio : 0 < (held register s).audioStreamers → s.mHasAudio = true

theorem fulfils_of_matches (clean : Clean register s)
    (balanced : Matches (held register (s.acquired android)) (s.acquired android).toSettings) :
    Fulfils android register s := by
  rw [acquired_settings] at balanced
  constructor
  · intro mirror null
    have displays := balanced.displays
    rw [held_acquired clean, mirror, null] at displays
    simp at displays
  · intro remote
    have cursor := balanced.cursor remote
    rw [held_acquired clean, remote] at cursor
    exact cursor
  · intro running
    refine balanced.audio.mp ?_
    rw [held_acquired clean]
    exact Nat.lt_of_lt_of_le running (Nat.le_add_right _ _)

theorem holding_acquired (clean : Clean register s) (can : CanAcquire android s)
    (fulfils : Fulfils android register s) : Holding register (s.acquired android) := by
  have settings := acquired_settings s android
  have audio : (s.acquired android).mHasAudio = s.mHasAudio := congrArg Settings.mHasAudio settings
  have support : (s.acquired android).mSupportClipboard = s.mSupportClipboard :=
    congrArg Settings.mSupportClipboard settings
  have remote : (s.acquired android).mRemoteCursor = s.mRemoteCursor := congrArg Settings.mRemoteCursor settings
  have mirrors : (s.acquired android).mMirrorInternal = s.mMirrorInternal :=
    congrArg Settings.mMirrorInternal settings
  constructor
  · rw [held_acquired clean, audio]
    constructor
    · intro running
      apply Classical.byContradiction
      intro silent
      have none := fulfils.audio
      simp only [Bool.not_eq_true] at silent
      simp only [silent, Bool.false_eq_true, if_false, Nat.add_zero] at running none
      exact none running
    · intro wanted
      simp [wanted]
  · rw [held_acquired clean, support]
  · intro wanted
    rw [remote] at wanted
    rw [held_acquired clean, wanted]
    exact fulfils.cursor wanted
  · intro mirror
    rw [mirrors] at mirror
    simp [held_acquired clean, mirror]
  · intro mirror
    rw [mirrors] at mirror
    have created : android.createVirtualDisplay s.displays s.mWidth s.mHeight s.mDPI = .display := by
      cases creation : android.createVirtualDisplay s.displays s.mWidth s.mHeight s.mDPI with
      | display => rfl
      | null => exact absurd creation (fulfils.display mirror)
      | throws => exact absurd creation (can.display mirror)
    refine ⟨s.displays, ?_, ?_⟩
    · show (s.shown android).mDisplay = some s.displays
      simp [Fields.shown, mirror, created]
    · simp [held_acquired clean, mirror, created]
  · intro wanted
    show ((s.shown android).mClipboard || (s.shown android).mSupportClipboard) = true
    have shown : (s.shown android).mSupportClipboard = true := wanted
    rw [shown, Bool.or_true]

theorem held_cleanup (s : Fields) : (held register s).afterAll register (cleanupEffects s) =
    { held register s with
      clipListeners := (held register s).clipListeners - if s.mSupportClipboard && s.mClipboard then 1 else 0
      displays := s.mDisplay.elim (held register s).displays (held register s).displays.erase
      audioStreamers := if s.mHasAudio then 0 else (held register s).audioStreamers } := by
  unfold cleanupEffects
  cases s.mRemoteCursor <;> cases (s.mSupportClipboard && s.mClipboard) <;> cases s.mDisplay <;>
    cases s.mHasAudio <;> rfl

/-- A restart gives back the clipboard listener and the display, and the audio streamer if the new
settings have one. -/
theorem held_restarting (holding : Holding register s) (new : Settings) : held register (s.restarting new) =
    { audioStreamers := if new.mHasAudio then 0 else (held register s).audioStreamers
      clipListeners := 0
      cursorCallbacks := (held register s).cursorCallbacks
      displays := [] } := by
  have run : held register (s.restarting new) =
      (held register ((s.clipped new.mSupportClipboard).restarted new)).afterAll register
        (cleanupEffects ((s.clipped new.mSupportClipboard).restarted new)) :=
    held_emit ((s.clipped new.mSupportClipboard).restarted new) _
  have changed : held register ((s.clipped new.mSupportClipboard).restarted new) =
      held register (s.clipped new.mSupportClipboard) := rfl
  have clipboard : (held register (s.clipped new.mSupportClipboard)).clipListeners -
      (if new.mSupportClipboard && (s.clipped new.mSupportClipboard).mClipboard then 1 else 0) = 0 := by
    rw [clipped_clipboard holding]
    cases wanted : new.mSupportClipboard with
    | false => rfl
    | true =>
      have fetched := clipped_fetched holding true rfl
      simp [fetched]
  have displays : s.mDisplay.elim (held register s).displays (held register s).displays.erase = [] := by
    cases mirror : s.mMirrorInternal with
    | true =>
      rw [holding.mirroring mirror]
      cases s.mDisplay <;> rfl
    | false =>
      obtain ⟨display, shown, displays⟩ := holding.virtual mirror
      rw [shown, displays]
      simp
  rw [run, held_cleanup, changed]
  apply Resources.ext
  · rw [held_clipped]
    rfl
  · exact clipboard
  · rw [held_clipped]
  · rw [held_clipped]
    exact displays

theorem clean_restarting (holding : Holding register s) (new : Settings) :
    Clean register (s.restarting new) := by
  constructor
  · rw [held_restarting holding]
  · rw [held_restarting holding]

/-! ### Runs -/

/-- Between commands, the service has never been started, or runs and holds what it asks for. -/
def Settled (register : Nat → Nat) : Option Fields → Prop
  | none => True
  | some s => s.mIsRunning = false ∧ s.effects = [] ∨ s.mIsRunning = true ∧ Holding register s

theorem clean_received (settled : Settled register (some s)) {middle : Fields}
    (received : receive android intent s = .ok true middle) :
    Clean register middle ∧ (held register middle).cursorCallbacks = (held register s).cursorCallbacks ∧
      (0 < (held register middle).audioStreamers ↔
        s.mIsRunning = true ∧ s.mHasAudio = true ∧ middle.mHasAudio = false) := by
  rcases received_acquiring received with ⟨stopped, rfl⟩ | ⟨running, changed, rfl⟩
  · rcases settled with ⟨_, fresh⟩ | ⟨running, _⟩
    · have none : held register (s.configured intent) = {} := by
        show Resources.afterAll register {} s.effects = {}
        rw [fresh, afterAll_nil]
      have none' : held register s = {} := by rw [held, fresh, afterAll_nil]
      refine ⟨⟨by rw [none], by rw [none]⟩, by rw [none, none'], ?_⟩
      rw [none, stopped]
      simp
    · rw [stopped] at running
      cases running
  · rcases settled with ⟨stopped, _⟩ | ⟨_, holding⟩
    · rw [running] at stopped
      cases stopped
    · refine ⟨clean_restarting holding _, by rw [held_restarting holding], ?_⟩
      rw [held_restarting holding]
      show 0 < (if (intent.merge s.toSettings).mHasAudio then 0 else (held register s).audioStreamers) ↔
        s.mIsRunning = true ∧ s.mHasAudio = true ∧ (intent.merge s.toSettings).mHasAudio = false
      cases (intent.merge s.toSettings).mHasAudio with
      | true => simp
      | false => simp [running, holding.audio]

theorem received_asking {middle : Fields} (received : receive android intent s = .ok true middle) :
    Acquires s intent ∧ middle.toSettings = (asking s intent).toSettings ∧
      middle.displays = s.displays ∧ (CanAcquire android middle ↔ CanAcquire android (asking s intent)) := by
  rcases received_acquiring received with ⟨stopped, rfl⟩ | ⟨running, changed, rfl⟩
  · have asked : asking s intent = s.configured intent := if_neg (by simp [stopped])
    refine ⟨fun now => by simp [stopped] at now, by rw [asked], rfl, by rw [asked]⟩
  · have asked : asking s intent = { s with toSettings :=
        { intent.merge s.toSettings with mWidth := s.mWidth, mHeight := s.mHeight, mDPI := s.mDPI } } :=
      if_pos running
    rw [asked]
    exact ⟨fun _ => changed, rfl, rfl, ⟨fun can => ⟨can.display, can.component⟩,
      fun can => ⟨can.display, can.component⟩⟩⟩

theorem acquires_received (acquires : Acquires s intent) :
    ∃ middle, receive android intent s = .ok true middle := by
  cases running : s.mIsRunning with
  | false => exact ⟨_, receive_stopped running⟩
  | true => exact ⟨_, (receive_running running).trans (receiveRunning_restart (acquires running))⟩

theorem balanced_iff (settled : Settled register (some s)) {middle : Fields}
    (received : receive android intent s = .ok true middle) :
    Balanced android register s intent ↔ Fulfils android register middle := by
  obtain ⟨_, callbacks, streamers⟩ := clean_received settled received
  obtain ⟨_, settings, displays, _⟩ := received_asking received
  constructor
  · rintro ⟨display, cursor, audio⟩
    rw [← settings] at display cursor audio
    refine ⟨by rw [displays]; exact display, by rw [callbacks]; exact cursor, ?_⟩
    intro left
    obtain ⟨running, had, lost⟩ := streamers.mp left
    exact audio running had
  · rintro ⟨display, cursor, audio⟩
    rw [callbacks] at cursor
    rw [displays] at display
    constructor
    · rw [← settings]
      exact display
    · rw [← settings]
      exact cursor
    · rw [← settings]
      intro running had
      cases wanted : middle.mHasAudio with
      | true => rfl
      | false =>
        have asked := audio (streamers.mpr ⟨running, had, wanted⟩)
        rw [wanted] at asked
        exact asked

theorem balances_iff (settled : Settled register (some s)) : Balances android register (some s) intent ↔
    ∀ middle, receive android intent s = .ok true middle → CanAcquire android middle →
      Fulfils android register middle := by
  constructor
  · intro balances middle received can
    obtain ⟨acquires, _, _, same⟩ := received_asking received
    exact (balanced_iff settled received).mp (balances acquires (same.mp can))
  · intro fulfils acquires can
    obtain ⟨middle, received⟩ := acquires_received acquires
    obtain ⟨_, _, _, same⟩ := received_asking received
    exact (balanced_iff settled received).mpr (fulfils middle received (same.mpr can))

theorem holding_received (settled : Settled register (some s)) {s' : Fields}
    (received : receive android intent s = .ok false s') : s'.mIsRunning = true ∧ Holding register s' := by
  obtain ⟨running, resized⟩ := received_inPlace received
  rcases settled with ⟨stopped, _⟩ | ⟨_, holding⟩
  · rw [running] at stopped
    cases stopped
  · have kept := holding_inPlace holding resized
    obtain ⟨_, _, _, _, rfl, _⟩ := resized
    exact ⟨running, kept⟩

theorem holding_command (settled : Settled register (some s))
    (fulfils : ∀ middle, receive android intent s = .ok true middle → CanAcquire android middle →
      Fulfils android register middle)
    {s' : Fields} (ok : onStartCommand android intent s = .ok () s') :
    s'.mIsRunning = true ∧ Holding register s' := by
  obtain ⟨again, middle, received, rest⟩ := Outcomes.bind_returns ok
  cases again with
  | true =>
    obtain ⟨can, rfl⟩ := acquire_returns ((onStartCommand_acquires received).symm.trans ok)
    exact ⟨rfl, holding_acquired (clean_received settled received).1 can (fulfils middle received can)⟩
  | false =>
    cases rest
    exact holding_received settled received

theorem matchesAfter_iff (settled : Settled register (some s)) :
    MatchesAfter android register (some s) intent ↔ Balances android register (some s) intent := by
  rw [balances_iff settled]
  constructor
  · intro balanced middle received can
    have run := (onStartCommand_acquires received).trans (acquire_ok can)
    exact fulfils_of_matches (clean_received settled received).1 (balanced _ run rfl)
  · intro fulfils s' ok _
    exact (holding_command settled fulfils ok).2.matches

theorem commandStep_ok {s' : Fields} (ok : onStartCommand android intent s = .ok () s') :
    commandStep android (some s) intent = some s' := by
  rw [commandStep, ok]

theorem commandStep_error {s' : Fields} {e : Throw} (error : onStartCommand android intent s = .error e s') :
    commandStep android (some s) intent = none := by
  rw [commandStep, error]

theorem settled_step (state : Option Fields) (intent : Intent) (settled : Settled register state)
    (balanced : MatchesAfter android register state intent) :
    Settled register (commandStep android state intent) := by
  cases state with
  | none => trivial
  | some s =>
    have fulfils := (balances_iff settled).mp ((matchesAfter_iff settled).mp balanced)
    cases ok : onStartCommand android intent s with
    | error e s' =>
      rw [commandStep_error ok]
      trivial
    | ok u s' =>
      rw [commandStep_ok ok]
      exact Or.inr (holding_command settled fulfils ok)

/-- Along every run of commands, what the service holds is what its settings ask for exactly when
every acquisition balances. -/
theorem resources_match_along_run (android : Android) (register : Nat → Nat) (run : List Intent) :
    Runs.Along (commandStep android) (MatchesAfter android register) (some {}) run ↔
      Runs.Along (commandStep android) (Balances android register) (some {}) run := by
  have fresh : Settled register (some {}) := Or.inl ⟨rfl, rfl⟩
  refine Runs.along_iff (I := Settled register) fresh ?_ (fun state intent _ => settled_step state intent)
  intro state intent _ settled
  cases state with
  | none => exact Iff.rfl
  | some s => exact matchesAfter_iff settled

/-- A restart without audio leaves the streamer running, and a second start with a remote cursor
registers a second callback. -/
theorem streamer_left_running :
    ¬Runs.Along (commandStep .calm) (MatchesAfter .calm (· + 1)) (some {}) [{}, { hasAudio := some false }] ∧
    ¬Runs.Along (commandStep .calm) (MatchesAfter .calm (· + 1)) (some {}) [{}, { allowResize := some true }] := by
  decide

end VncFlinger.Service
