import VncFlinger.Service.Command

/-!
# Merging the extras into the settings

Each path of `onStartCommand` reads the same extras. They differ in what they store: a restart
leaves the size and the density behind, and a resize takes a density of -1 for the old one and
needs a display.
-/

namespace VncFlinger.Service

/-- The command completes with every extra in its setting, and the other settings as they were. -/
def Merges (android : Android) (intent : Intent) (s : Fields) : Prop :=
  ∃ s', onStartCommand android intent s = .ok () s' ∧ s'.toSettings = intent.merge s.toSettings

structure MergeFits (android : Android) (intent : Intent) (s : Fields) : Prop where
  start : s.mIsRunning = false → CanAcquire android (s.configured intent)
  restart : s.mIsRunning = true → restarts s.toSettings (intent.merge s.toSettings) = true →
    sameSize s.toSettings (intent.merge s.toSettings) ∧ (intent.merge s.toSettings).mDPI = s.mDPI ∧
      CanAcquire android { s with toSettings := intent.merge s.toSettings }
  resize : s.mIsRunning = true → restarts s.toSettings (intent.merge s.toSettings) = false →
    ¬(sameSize s.toSettings (intent.merge s.toSettings) ∧ (intent.merge s.toSettings).mDPI = s.mDPI) →
      Resizable android s (intent.merge s.toSettings).mWidth (intent.merge s.toSettings).mHeight
        (intent.merge s.toSettings).mDPI ∧
      (sameSize s.toSettings (intent.merge s.toSettings) ∨ (intent.merge s.toSettings).mDPI ≠ -1 ∨ s.mDPI = -1)

variable {android : Android} {intent : Intent} {s : Fields} {new : Settings}

theorem merges_iff_value : Merges android intent s ↔
    Outcomes.value (onStartCommand android intent) s = some () ∧
      (Outcomes.after (onStartCommand android intent) s).toSettings = intent.merge s.toSettings := by
  unfold Merges Outcomes.value Outcomes.after
  cases onStartCommand android intent s <;> simp

instance : Decidable (Merges android intent s) := decidable_of_iff _ merges_iff_value.symm

/-! ### The acquiring paths -/

theorem onStartCommand_acquires {middle : Fields} (received : receive android intent s = .ok true middle) :
    onStartCommand android intent s = acquire android middle := by
  rw [onStartCommand, Outcomes.bind_ok received, if_pos rfl]

theorem onStartCommand_done {middle : Fields} (received : receive android intent s = .ok false middle) :
    onStartCommand android intent s = .ok () middle := by
  rw [onStartCommand, Outcomes.bind_ok received, if_neg Bool.false_ne_true]
  rfl

theorem onStartCommand_throws {middle : Fields} {e : Throw}
    (received : receive android intent s = .error e middle) :
    onStartCommand android intent s = .error e middle := by
  rw [onStartCommand, Outcomes.bind_error received]

theorem merges_acquiring {middle : Fields} (received : receive android intent s = .ok true middle) :
    Merges android intent s ↔ CanAcquire android middle ∧ middle.toSettings = intent.merge s.toSettings := by
  unfold Merges
  rw [onStartCommand_acquires received]
  constructor
  · rintro ⟨s', ok, merged⟩
    obtain ⟨can, rfl⟩ := acquire_returns ok
    exact ⟨can, (acquired_settings middle android).symm.trans merged⟩
  · rintro ⟨can, merged⟩
    exact ⟨_, acquire_ok can, (acquired_settings middle android).trans merged⟩

theorem restarting_settings (s : Fields) (new : Settings) : (s.restarting new).toSettings =
    { new with mWidth := s.mWidth, mHeight := s.mHeight, mDPI := s.mDPI } := rfl

theorem restarting_merged_iff (s : Fields) (new : Settings) :
    (s.restarting new).toSettings = new ↔ sameSize s.toSettings new ∧ new.mDPI = s.mDPI := by
  rw [restarting_settings]
  constructor
  · intro same
    have width := congrArg Settings.mWidth same
    have height := congrArg Settings.mHeight same
    have dpi := congrArg Settings.mDPI same
    exact ⟨⟨width.symm, height.symm⟩, dpi.symm⟩
  · rintro ⟨⟨width, height⟩, dpi⟩
    rw [← width, ← height, ← dpi]

theorem canAcquire_restarting (size : sameSize s.toSettings new) (dpi : new.mDPI = s.mDPI) :
    CanAcquire android (s.restarting new) ↔ CanAcquire android { s with toSettings := new } := by
  obtain ⟨width, height⟩ := size
  constructor
  · rintro ⟨display, component⟩
    refine ⟨fun mirror => ?_, component⟩
    have accepted := display mirror
    show android.createVirtualDisplay s.displays new.mWidth new.mHeight new.mDPI ≠ .throws
    rw [width, height, dpi]
    exact accepted
  · rintro ⟨display, component⟩
    refine ⟨fun mirror => ?_, component⟩
    have accepted : android.createVirtualDisplay s.displays new.mWidth new.mHeight new.mDPI ≠ .throws :=
      display mirror
    rw [width, height, dpi] at accepted
    exact accepted

/-! ### The resizing paths -/

theorem unchanged_settings (unchanged : restarts s.toSettings new = false) (width height dpi : Int32) :
    ((s.clipped new.mSupportClipboard).sized width height dpi).toSettings =
      { new with mWidth := width, mHeight := height, mDPI := dpi } := by
  obtain ⟨⟨_, _, _, _, _, _, _, _, _, _⟩, _, _, _, _, _, _, _, _⟩ := s
  obtain ⟨_, _, _, _, _, _, _, _, _, _⟩ := new
  simp only [restarts, Bool.or_eq_false_iff, bne_eq_false_iff_eq] at unchanged
  obtain ⟨⟨⟨⟨⟨touch, input⟩, mirror⟩, resize⟩, audio⟩, cursor⟩ := unchanged
  subst touch input mirror resize audio cursor
  rfl

theorem unchanged_merged (unchanged : restarts s.toSettings new = false) {width height dpi : Int32}
    (sameWidth : new.mWidth = width) (sameHeight : new.mHeight = height) (sameDPI : new.mDPI = dpi) :
    ((s.clipped new.mSupportClipboard).sized width height dpi).toSettings = new := by
  rw [unchanged_settings unchanged, ← sameWidth, ← sameHeight, ← sameDPI]

theorem merges_same (running : s.mIsRunning = true)
    (unchanged : restarts s.toSettings (intent.merge s.toSettings) = false)
    (size : sameSize s.toSettings (intent.merge s.toSettings))
    (dpi : (intent.merge s.toSettings).mDPI = s.mDPI) : Merges android intent s := by
  have received : receive android intent s = .ok false _ :=
    (receive_running running).trans (receiveRunning_same unchanged size dpi)
  exact ⟨_, onStartCommand_done received, unchanged_merged unchanged size.1 size.2 dpi⟩

theorem merges_ending {x : ServiceM Unit} {middle : Fields} (running : s.mIsRunning = true)
    (ends : receiveRunning android (intent.merge s.toSettings) s =
      (do x; return false : ServiceM Bool) middle) :
    Merges android intent s ↔ ∃ s', x middle = .ok () s' ∧ s'.toSettings = intent.merge s.toSettings := by
  have received := (receive_running running).trans ends
  unfold Merges
  cases result : x middle with
  | ok u final =>
    rw [Outcomes.bind_ok result] at received
    rw [onStartCommand_done received]
  | error e final =>
    rw [Outcomes.bind_error result] at received
    rw [onStartCommand_throws received]

theorem merges_dpi (running : s.mIsRunning = true)
    (unchanged : restarts s.toSettings (intent.merge s.toSettings) = false)
    (size : sameSize s.toSettings (intent.merge s.toSettings))
    (dpi : (intent.merge s.toSettings).mDPI ≠ s.mDPI) :
    Merges android intent s ↔ Resizable android s (intent.merge s.toSettings).mWidth
      (intent.merge s.toSettings).mHeight (intent.merge s.toSettings).mDPI := by
  rw [merges_ending running (receiveRunning_dpi unchanged size dpi), size.1, size.2]
  constructor
  · rintro ⟨s', ok, _⟩
    exact (changeDPI_returns ok).1
  · intro resizable
    obtain ⟨display, run⟩ := changeDPI_ok (s := s.clipped (intent.merge s.toSettings).mSupportClipboard) resizable
    exact ⟨_, run, unchanged_merged unchanged size.1 size.2 rfl⟩

theorem merges_size (running : s.mIsRunning = true)
    (unchanged : restarts s.toSettings (intent.merge s.toSettings) = false)
    (size : ¬sameSize s.toSettings (intent.merge s.toSettings)) :
    Merges android intent s ↔ Resizable android s (intent.merge s.toSettings).mWidth
        (intent.merge s.toSettings).mHeight (intent.merge s.toSettings).mDPI ∧
      ((intent.merge s.toSettings).mDPI ≠ -1 ∨ s.mDPI = -1) := by
  rw [merges_ending running (receiveRunning_size unchanged size)]
  have kept : keptDPI s.mDPI (intent.merge s.toSettings).mDPI = (intent.merge s.toSettings).mDPI ↔
      ((intent.merge s.toSettings).mDPI ≠ -1 ∨ s.mDPI = -1) := by
    unfold keptDPI
    split
    · rename_i absent
      rw [absent]
      simp
    · rename_i given
      simp [given]
  rw [← kept]
  constructor
  · rintro ⟨s', ok, merged⟩
    obtain ⟨resizable, _, _, _, _, _, _, _, rfl⟩ := resizeResolution_returns ok
    have dpi : keptDPI s.mDPI (intent.merge s.toSettings).mDPI = (intent.merge s.toSettings).mDPI :=
      congrArg Settings.mDPI merged
    have resizable' : Resizable android s _ _ (keptDPI s.mDPI (intent.merge s.toSettings).mDPI) := resizable
    rw [dpi] at resizable'
    exact ⟨resizable', dpi⟩
  · rintro ⟨resizable, dpi⟩
    have resizable' : Resizable android (s.clipped (intent.merge s.toSettings).mSupportClipboard)
        (intent.merge s.toSettings).mWidth (intent.merge s.toSettings).mHeight
        (keptDPI s.mDPI (intent.merge s.toSettings).mDPI) := by
      rw [dpi]
      exact resizable
    obtain ⟨_, _, _, _, _, _, _, run⟩ := resizeResolution_ok resizable'
    exact ⟨_, run, unchanged_merged unchanged rfl rfl dpi.symm⟩

/-! ### Every command -/

/-- A command completes and merges its extras exactly when it fits the path it takes. -/
theorem onStartCommand_merges_iff (android : Android) (intent : Intent) (s : Fields) :
    Merges android intent s ↔ MergeFits android intent s := by
  cases running : s.mIsRunning with
  | false =>
    have merged : (s.configured intent).toSettings = intent.merge s.toSettings := rfl
    rw [merges_acquiring (receive_stopped running)]
    constructor
    · rintro ⟨can, _⟩
      exact ⟨fun _ => can, fun now => by simp [running] at now, fun now => by simp [running] at now⟩
    · intro fits
      exact ⟨fits.start running, merged⟩
  | true =>
    have started : s.mIsRunning = false → CanAcquire android (s.configured intent) := fun stopped => by
      simp [running] at stopped
    cases changed : restarts s.toSettings (intent.merge s.toSettings) with
    | true =>
      rw [merges_acquiring ((receive_running running).trans (receiveRunning_restart changed)),
        restarting_merged_iff]
      constructor
      · rintro ⟨can, size, dpi⟩
        refine ⟨started, fun _ _ => ⟨size, dpi, (canAcquire_restarting size dpi).mp can⟩, fun _ unchanged => ?_⟩
        simp [changed] at unchanged
      · intro fits
        obtain ⟨size, dpi, can⟩ := fits.restart running changed
        exact ⟨(canAcquire_restarting size dpi).mpr can, size, dpi⟩
    | false =>
      have noRestart : s.mIsRunning = true → restarts s.toSettings (intent.merge s.toSettings) = true →
          sameSize s.toSettings (intent.merge s.toSettings) ∧ (intent.merge s.toSettings).mDPI = s.mDPI ∧
            CanAcquire android { s with toSettings := intent.merge s.toSettings } := fun _ now => by
        simp [changed] at now
      by_cases size : sameSize s.toSettings (intent.merge s.toSettings)
      · by_cases dpi : (intent.merge s.toSettings).mDPI = s.mDPI
        · refine iff_of_true (merges_same running changed size dpi) ⟨started, noRestart, fun _ _ differs => ?_⟩
          exact absurd ⟨size, dpi⟩ differs
        · rw [merges_dpi running changed size dpi]
          constructor
          · intro resizable
            exact ⟨started, noRestart, fun _ _ _ => ⟨resizable, Or.inl size⟩⟩
          · intro fits
            exact (fits.resize running changed fun same => dpi same.2).1
      · rw [merges_size running changed size]
        constructor
        · rintro ⟨resizable, dpi⟩
          exact ⟨started, noRestart, fun _ _ _ => ⟨resizable, Or.inr dpi⟩⟩
        · intro fits
          obtain ⟨resizable, dpi⟩ := fits.resize running changed fun same => size same.1
          exact ⟨resizable, dpi.resolve_left size⟩

def launched (intent : Intent) : Fields := Outcomes.after (onStartCommand .calm intent) {}

/-- A restart drops the new size, a mirroring service has no display to resize, and a resize takes
a density of -1 for none. -/
theorem extras_dropped :
    ¬Merges .calm { width := some 800, hasAudio := some false } (launched {}) ∧
    Outcomes.value (onStartCommand .calm { dpi := some 320 }) (launched { mirrorInternal := some true }) = none ∧
    ¬Merges .calm { dpi := some 320 } (launched { mirrorInternal := some true }) ∧
    ¬Merges .calm { width := some 800, dpi := some (-1) } (launched {}) := by
  decide

end VncFlinger.Service
