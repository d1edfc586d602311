import Mathlib.Data.Nat.Notation
import Mathlib.Tactic.SplitIfs
import VncFlinger.Service.Merge

/-!
# The same intent again

A restart leaves the size for the next command, and a resize leaves a density of -1. Sent again, the
intent finds less left to do, and it never restarts the service twice.
-/

namespace VncFlinger.Service

/-- The same intent `n` times; there is no state left once a command throws. -/
def repeated (android : Android) (intent : Intent) : ℕ → Fields → Option Fields
  | 0, s => some s
  | n + 1, s =>
    match onStartCommand android intent s with
    | .ok _ s' => repeated android intent n s'
    | .error _ _ => none

/-- The commands it takes at most until the settings are the target. -/
def commandsLeft (target : Settings) (s : Fields) : ℕ :=
  if s.mIsRunning = false ∨ restarts s.toSettings target = true then 3
  else if target.mWidth ≠ s.mWidth ∨ target.mHeight ≠ s.mHeight then 2
  else if s.toSettings ≠ target then 1
  else 0

def Effect.isStart : Effect → Bool
  | .startVncThread => true
  | _ => false

def Fields.starts (s : Fields) : ℕ := s.effects.countP Effect.isStart

variable {android : Android} {intent : Intent} {s s' : Fields} {old target : Settings}

theorem commandsLeft_le (target : Settings) (s : Fields) : commandsLeft target s ≤ 3 := by
  unfold commandsLeft
  split_ifs <;> omega

/-- The size and the density may be the old ones or those of the intent. -/
theorem merge_part {width height dpi : Int32} (merged : intent.merge old = target)
    (sameWidth : width = old.mWidth ∨ width = target.mWidth)
    (sameHeight : height = old.mHeight ∨ height = target.mHeight)
    (sameDPI : dpi = old.mDPI ∨ dpi = target.mDPI) :
    intent.merge { target with mWidth := width, mHeight := height, mDPI := dpi } = target := by
  subst merged
  have again : ∀ {α : Type} {given : Option α} {value before : α},
      value = before ∨ value = given.getD before → given.getD value = given.getD before := by
    intro α given value before either
    cases given with
    | none => exact either.elim id id
    | some _ => rfl
  unfold Intent.merge at *
  simp only [Settings.mk.injEq]
  refine ⟨again (Or.inr rfl), again (Or.inr rfl), again (Or.inr rfl), again (Or.inr rfl), again (Or.inr rfl),
    again (Or.inr rfl), again (Or.inr rfl), again sameWidth, again sameHeight, again sameDPI⟩

theorem restarts_part (width height dpi : Int32) :
    restarts { target with mWidth := width, mHeight := height, mDPI := dpi } target = false := by
  simp [restarts]

theorem starts_emit (s : Fields) (effects : List Effect) :
    (s.emit effects).starts = s.starts + effects.countP Effect.isStart :=
  List.countP_append

/-! ### One command -/

/-- What a command that returns has left to do. -/
inductive Commanded (target : Settings) (s s' : Fields) : Prop
  | start (stopped : s.mIsRunning = false) (settings : s'.toSettings = target) (starts : s'.starts = s.starts + 1)
  | restart (changed : restarts s.toSettings target = true)
      (settings : s'.toSettings = { target with mWidth := s.mWidth, mHeight := s.mHeight, mDPI := s.mDPI })
      (starts : s'.starts = s.starts + 1)
  | size (changed : ¬sameSize s.toSettings target)
      (settings : s'.toSettings = { target with mDPI := keptDPI s.mDPI target.mDPI })
      (starts : s'.starts = s.starts)
  | done (settings : s'.toSettings = target) (starts : s'.starts = s.starts)

theorem starts_cleanup (s : Fields) : (cleanupEffects s).countP Effect.isStart = 0 := by
  unfold cleanupEffects
  cases s.mDisplay <;> cases s.mRemoteCursor <;> cases s.mSupportClipboard && s.mClipboard <;>
    cases s.mHasAudio <;> rfl

theorem starts_shown (s : Fields) : (s.shown android).starts = s.starts := by
  unfold Fields.shown Fields.starts
  split
  · rfl
  · split
    · exact List.countP_append.trans rfl
    · rfl

theorem starts_startEffects (s : Fields) : (startEffects s).countP Effect.isStart = 1 := by
  unfold startEffects
  cases s.mSupportClipboard <;> cases s.mHasAudio <;> cases s.mRemoteCursor <;> rfl

theorem starts_acquired (s : Fields) : (s.acquired android).starts = s.starts + 1 := by
  have shown : (s.shown android).starts = s.starts := starts_shown s
  have started : (s.shown android).started.starts = (s.shown android).starts + 1 := by
    unfold Fields.starts Fields.started
    rw [List.countP_append, starts_startEffects]
  calc (s.acquired android).starts
      = ((s.shown android).started.emit [.startForeground]).starts := rfl
    _ = (s.shown android).started.starts + 0 := starts_emit _ _
    _ = s.starts + 1 := by rw [started, shown]

theorem starts_clipped (s : Fields) (support : Bool) : (s.clipped support).starts = s.starts := by
  have none : (clipboardEffects s support).countP Effect.isStart = 0 := by
    unfold clipboardEffects
    cases support <;> split <;> rfl
  exact List.countP_append.trans (by rw [none]; rfl)

theorem command_returns (ok : onStartCommand android intent s = .ok () s') :
    s'.mIsRunning = true ∧ Commanded (intent.merge s.toSettings) s s' := by
  obtain ⟨again, middle, received, rest⟩ := Outcomes.bind_returns ok
  cases again with
  | true =>
    obtain ⟨_, rfl⟩ := acquire_returns rest
    refine ⟨rfl, ?_⟩
    rcases received_acquiring received with ⟨stopped, rfl⟩ | ⟨_, changed, rfl⟩
    · exact .start stopped (acquired_settings _ _) (starts_acquired _)
    · refine .restart changed (acquired_settings _ _) ((starts_acquired _).trans ?_)
      have cleaned : (s.restarting (intent.merge s.toSettings)).starts =
          (s.clipped (intent.merge s.toSettings).mSupportClipboard).starts + 0 := by
        refine (starts_emit _ _).trans ?_
        rw [starts_cleanup]
        rfl
      rw [cleaned, starts_clipped]
  | false =>
    cases rest
    have running := (received_inPlace received).1
    have unchanged : restarts s.toSettings (intent.merge s.toSettings) = false := by
      rw [receive_running running] at received
      cases changed : restarts s.toSettings (intent.merge s.toSettings) with
      | false => rfl
      | true =>
        rw [receiveRunning_restart changed] at received
        cases received
    rw [receive_running running] at received
    by_cases size : sameSize s.toSettings (intent.merge s.toSettings)
    · by_cases dpi : (intent.merge s.toSettings).mDPI = s.mDPI
      · rw [receiveRunning_same unchanged size dpi] at received
        cases received
        exact ⟨running, .done (unchanged_merged unchanged size.1 size.2 dpi) (starts_clipped _ _)⟩
      · rw [receiveRunning_dpi unchanged size dpi] at received
        obtain ⟨_, _, changed, final⟩ := Outcomes.bind_returns received
        cases final
        obtain ⟨_, display, rfl⟩ := changeDPI_returns changed
        refine ⟨running, .done (unchanged_merged unchanged size.1 size.2 rfl) ?_⟩
        exact (starts_emit _ _).trans (starts_clipped s _)
    · rw [receiveRunning_size unchanged size] at received
      obtain ⟨_, _, changed, final⟩ := Outcomes.bind_returns received
      cases final
      obtain ⟨_, _, _, _, _, _, _, _, rfl⟩ := resizeResolution_returns changed
      refine ⟨running, .size size (unchanged_settings unchanged _ _ _) ?_⟩
      exact (starts_emit _ _).trans (starts_clipped s _)

/-! ### Every command -/

theorem Commanded.merge_again (commanded : Commanded target s s') (merged : intent.merge s.toSettings = target) :
    intent.merge s'.toSettings = target := by
  have whole : intent.merge target = target := merge_part merged (Or.inr rfl) (Or.inr rfl) (Or.inr rfl)
  cases commanded with
  | start _ settings => rw [settings, whole]
  | restart _ settings => rw [settings, merge_part merged (Or.inl rfl) (Or.inl rfl) (Or.inl rfl)]
  | size _ settings =>
    rw [settings]
    refine merge_part merged (Or.inr rfl) (Or.inr rfl) ?_
    unfold keptDPI
    split
    · exact Or.inl rfl
    · exact Or.inr rfl
  | done settings => rw [settings, whole]

theorem commandsLeft_whole (running : s'.mIsRunning = true) (settings : s'.toSettings = target) :
    commandsLeft target s' = 0 := by
  subst settings
  have same : restarts s'.toSettings s'.toSettings = false := restarts_part s'.mWidth s'.mHeight s'.mDPI
  simp [commandsLeft, running, same]

theorem commandsLeft_part (running : s'.mIsRunning = true) {width height dpi : Int32}
    (settings : s'.toSettings = { target with mWidth := width, mHeight := height, mDPI := dpi }) :
    commandsLeft target s' ≤ 2 ∧ (width = target.mWidth → height = target.mHeight → commandsLeft target s' ≤ 1) := by
  have inPlace : ¬(s'.mIsRunning = false ∨ restarts s'.toSettings target = true) := by
    rw [running, settings, restarts_part]
    simp
  have size : s'.mWidth = width ∧ s'.mHeight = height := by
    rw [settings]
    exact ⟨rfl, rfl⟩
  unfold commandsLeft
  rw [if_neg inPlace, size.1, size.2]
  refine ⟨?_, fun sameWidth sameHeight => ?_⟩
  · split_ifs <;> omega
  · rw [if_neg (by simp [sameWidth, sameHeight])]
    split_ifs <;> omega

/-- A command that returns brings the settings closer. -/
theorem Commanded.closer (commanded : Commanded target s s') (running : s'.mIsRunning = true) :
    commandsLeft target s' ≤ commandsLeft target s - 1 := by
  cases commanded with
  | start _ settings =>
    rw [commandsLeft_whole running settings]
    exact Nat.zero_le _
  | done settings =>
    rw [commandsLeft_whole running settings]
    exact Nat.zero_le _
  | restart changed settings =>
    have three : commandsLeft target s = 3 := if_pos (Or.inr changed)
    rw [three]
    exact (commandsLeft_part running settings).1
  | size changed settings =>
    have two : 2 ≤ commandsLeft target s := by
      have differs : target.mWidth ≠ s.mWidth ∨ target.mHeight ≠ s.mHeight := not_and_or.mp changed
      unfold commandsLeft
      rw [if_pos differs]
      split_ifs <;> omega
    have one := (commandsLeft_part running settings).2 rfl rfl
    omega

/-- A command that starts the service again leaves no second start to do. -/
theorem Commanded.starts_le (commanded : Commanded target s s') (running : s'.mIsRunning = true) :
    s'.starts + (commandsLeft target s' - 2) ≤ s.starts + (commandsLeft target s - 2) := by
  have closer := commanded.closer running
  cases commanded with
  | start stopped _ starts =>
    have three : commandsLeft target s = 3 := if_pos (Or.inl stopped)
    omega
  | restart changed _ starts =>
    have three : commandsLeft target s = 3 := if_pos (Or.inr changed)
    omega
  | size _ _ starts => omega
  | done _ starts => omega

theorem repeated_closer {n : ℕ} (merged : intent.merge s.toSettings = target)
    (completed : repeated android intent n s = some s') :
    intent.merge s'.toSettings = target ∧ commandsLeft target s' ≤ commandsLeft target s - n ∧
      s'.starts + (commandsLeft target s' - 2) ≤ s.starts + (commandsLeft target s - 2) := by
  induction n generalizing s with
  | zero =>
    cases completed
    exact ⟨merged, Nat.le_refl _, Nat.le_refl _⟩
  | succ n ih =>
    rw [repeated] at completed
    cases ok : onStartCommand android intent s with
    | error => simp [ok] at completed
    | ok u middle =>
      obtain ⟨running, commanded⟩ := command_returns ok
      rw [merged] at commanded
      rw [ok] at completed
      obtain ⟨final, closer, starts⟩ := ih (commanded.merge_again merged) completed
      have first := commanded.closer running
      have once := commanded.starts_le running
      refine ⟨final, ?_, ?_⟩
      · omega
      · omega

theorem commandsLeft_zero (none : commandsLeft target s = 0) : s.mIsRunning = true ∧ s.toSettings = target := by
  unfold commandsLeft at none
  split_ifs at none with far size differs
  exact ⟨Bool.not_eq_false _ ▸ (not_or.mp far).1, not_not.mp differs⟩

theorem command_settled (running : s.mIsRunning = true) (settled : intent.merge s.toSettings = s.toSettings) :
    onStartCommand android intent s = .ok () s := by
  have same : restarts s.toSettings s.toSettings = false := restarts_part s.mWidth s.mHeight s.mDPI
  have received : receive android intent s = .ok false (s.clipped s.mSupportClipboard) := by
    rw [receive_running running, settled]
    exact receiveRunning_same same ⟨rfl, rfl⟩ rfl
  have unclipped : s.clipped s.mSupportClipboard = s := by
    simp [Fields.clipped, clipboardEffects]
  rw [unclipped] at received
  exact onStartCommand_done received

/-- A restart, then the size, then a density of -1. -/
def resent : Intent := { width := some 800, dpi := some (-1), hasAudio := some false }

example : (repeated .calm resent 2 (launched {})).map Fields.toSettings ≠
    some (resent.merge (launched {}).toSettings) := by
  decide

end VncFlinger.Service
