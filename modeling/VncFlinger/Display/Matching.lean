import Mathlib.Tactic.FieldSimp
import Mathlib.Tactic.Linarith
import VncFlinger.Display.Endings

/-!
# The framebuffer and the display

After each call the buffer should be the source at the scale, and the source the display's
oriented size. A call may be cut short by `setSize` or the listener, and a turn may come with a
mode that leaves the oriented size as it was.
-/

namespace VncFlinger.Display

/-- The scale of the source is the buffer. -/
def Scaled (b : PixelBuffer ℚ) : Prop :=
  b.mScaleX * b.mSourceWidth.toNat = b.width.toNat ∧ b.mScaleY * b.mSourceHeight.toNat = b.height.toNat

def SourceFilled (b : PixelBuffer ℚ) : Prop := b.mSourceWidth ≠ 0 ∧ b.mSourceHeight ≠ 0

/-- What a turn needs if the source is not turned with the buffer: an empty or a square side. -/
def Transposes (b : PixelBuffer ℚ) : Prop :=
  (b.width = 0 ∨ b.mSourceWidth = b.mSourceHeight) ∧ (b.height = 0 ∨ b.mSourceWidth = b.mSourceHeight)

theorem toNat_ne_zero {x : UInt32} (filled : x ≠ 0) : (x.toNat : ℚ) ≠ 0 := by
  rw [Nat.cast_ne_zero]
  exact fun zero => filled (UInt32.toNat_inj.mp zero)

theorem toNat_eq_zero_iff {x : UInt32} : (x.toNat : ℚ) = 0 ↔ x = 0 := by
  rw [Nat.cast_eq_zero, ← UInt32.toNat_inj]
  rfl

theorem toNat_cast_inj {x y : UInt32} : (x.toNat : ℚ) = y.toNat ↔ x = y := by
  rw [Nat.cast_inj, UInt32.toNat_inj]

theorem turned_direction_iff (source : UInt32) {scale : ℚ} {other size : UInt32} (filled : other ≠ 0)
    (scaled : scale * other.toNat = size.toNat) :
    scale * source.toNat = size.toNat ↔ size = 0 ∨ source = other := by
  have nonzero := toNat_ne_zero filled
  constructor
  · intro turned
    by_cases empty : scale = 0
    · rw [empty, zero_mul] at turned
      exact Or.inl (toNat_eq_zero_iff.mp turned.symm)
    · have same := mul_left_cancel₀ empty (turned.trans scaled.symm)
      exact Or.inr (toNat_cast_inj.mp same)
  · rintro (empty | same)
    · rw [empty] at scaled ⊢
      have zero : scale = 0 := (mul_eq_zero.mp scaled).resolve_right nonzero
      rw [zero, zero_mul]
      rfl
    · rw [same]
      exact scaled

theorem scaled_turned_iff {b : PixelBuffer ℚ} (filled : SourceFilled b) (scaled : Scaled b) (rotated : Bool) :
    Scaled (b.turned rotated) ↔ rotated = b.mRotated ∨ Transposes b := by
  rw [PixelBuffer.turned]
  split_ifs with same
  · exact iff_of_true scaled (Or.inl same)
  · have horizontal := turned_direction_iff b.mSourceWidth filled.2 scaled.2
    have vertical := turned_direction_iff b.mSourceHeight filled.1 scaled.1
    rw [Scaled, Transposes]
    simp only [horizontal, vertical, same, false_or]
    grind

theorem scaled_windowed_iff {b : PixelBuffer ℚ} (filled : SourceFilled b) :
    Scaled (b.windowed b.mClientWidth b.mClientHeight) ↔ ClientSized b := by
  have wide := toNat_ne_zero filled.1
  have high := toNat_ne_zero filled.2
  rw [Scaled, ClientSized, ← toNat_cast_inj, ← @toNat_cast_inj b.mClientHeight]
  show (b.mClientWidth.toNat : ℚ) / b.mSourceWidth.toNat * b.mSourceWidth.toNat = b.width.toNat ∧
    (b.mClientHeight.toNat : ℚ) / b.mSourceHeight.toNat * b.mSourceHeight.toNat = b.height.toNat ↔ _
  rw [div_mul_cancel₀ _ wide, div_mul_cancel₀ _ high]

theorem scaled_followed {b : PixelBuffer ℚ} (filled : SourceFilled b) : Scaled b.followed := by
  have sized : Scaled ((b.sized b.mClientWidth b.mClientHeight).windowed b.mClientWidth b.mClientHeight) :=
    (scaled_windowed_iff (b := b.sized b.mClientWidth b.mClientHeight) filled).mpr ⟨rfl, rfl⟩
  exact sized

/-! ### What a call leaves, also when it throws -/

variable {τ : Type} (env : BufferEnv ℚ τ)

theorem notify_pixels (s : Buffered ℚ τ) : (Outcomes.after (notify env) s).pixels = s.pixels := by
  rw [after_notify]

theorem followClient_pixels (s : Buffered ℚ τ) : (Outcomes.after (followClient env) s).pixels =
    if ClientSized s.pixels ∨ env.accepts s.pixels.mClientWidth s.pixels.mClientHeight = true then
      s.pixels.followed
    else s.pixels.windowed s.pixels.mClientWidth s.pixels.mClientHeight := by
  have run := followClient_apply env s
  simp only at run
  split_ifs at run with same accepted
  · have sized : ClientSized s.pixels := same
    rw [if_pos (Or.inl sized), Outcomes.after_ok run]
    exact (sized_same (b := s.pixels.windowed _ _) same).symm
  · rw [if_pos (Or.inr accepted), Outcomes.after_congr run, notify_pixels env]
    rfl
  · have differs : ¬ClientSized s.pixels := same
    rw [if_neg (not_or.mpr ⟨differs, accepted⟩), Outcomes.after_error run]
    rfl

theorem setWindowSize_pixels (width height : UInt32) (s : Buffered ℚ τ) :
    (Outcomes.after (setWindowSize env width height) s).pixels =
      if s.pixels.mClientWidth = width ∧ s.pixels.mClientHeight = height then s.pixels
      else (Outcomes.after (followClient env) (s.with (s.pixels.clientSized width height))).pixels := by
  have run := setWindowSize_apply env width height s
  split_ifs at run ⊢
  · rw [Outcomes.after_ok run]
  · rw [Outcomes.after_congr run]

theorem setSource_pixels (w h : UInt32) (force : Bool) (s : Buffered ℚ τ) :
    (Outcomes.after (setSource env w h force) s).pixels =
      if w = s.pixels.mSourceWidth ∧ h = s.pixels.mSourceHeight ∧ force = false then s.pixels
      else (Outcomes.after (followClient env) (s.with ((s.pixels.sourced w h).clientSized
        (s.pixels.sourced w h).scaledWidth (s.pixels.sourced w h).scaledHeight))).pixels := by
  have run := setSource_apply env w h force s
  split_ifs at run ⊢
  · rw [Outcomes.after_ok run]
  · exact congrArg Buffered.pixels (Outcomes.after_congr run)

/-- A report whose turn throws has turned the buffer if `setSize` took the turned size. -/
theorem turn_throws {s : Buffered ℚ τ} {rotated : Bool} (throws : ¬TakesTurn env s rotated) :
    ∃ s', setBufferRotation env rotated s = .error () s' ∧ s'.pixels =
      if env.accepts s.pixels.height s.pixels.width = true then s.pixels.turned rotated
      else { s.pixels with mRotated := rotated } := by
  have turns : rotated ≠ s.pixels.mRotated := fun same => throws fun differs => absurd same differs
  cases accepted : env.accepts s.pixels.height s.pixels.width with
  | true =>
    have run := setBufferRotation_accepted env turns accepted
    have pixels := notify_pixels env (s.with (s.pixels.turned rotated))
    rw [← Outcomes.after_congr run] at pixels
    cases result : setBufferRotation env rotated s with
    | ok u s' => exact absurd ((setBufferRotation_returns_iff env).mp ⟨u, s', result⟩) throws
    | error u s' =>
      rw [Outcomes.after_error result] at pixels
      exact ⟨s', rfl, pixels⟩
  | false => exact ⟨_, setBufferRotation_refused env turns accepted, rfl⟩

theorem setDisplayInfo_throws {s : Buffered ℚ τ} {mode : Size} {state : Rotation} {force : Bool}
    (throws : ¬TakesTurn env s (isDisplayRotated state)) :
    (Outcomes.after (setDisplayInfo env mode state force) s).pixels =
      if env.accepts s.pixels.height s.pixels.width = true then s.pixels.turned (isDisplayRotated state)
      else { s.pixels with mRotated := isDisplayRotated state } := by
  obtain ⟨s', result, pixels⟩ := turn_throws env throws
  rw [setDisplayInfo_eq, Outcomes.after_bind_error result, pixels]

theorem setDisplayInfo_turns {s : Buffered ℚ τ} (mode : Size) {state : Rotation} (force : Bool)
    (takes : TakesTurn env s (isDisplayRotated state)) :
    ∃ s', s'.pixels = s.pixels.turned (isDisplayRotated state) ∧
      Outcomes.after (setDisplayInfo env mode state force) s =
        Outcomes.after (setSource env (orientedWidth mode state) (orientedHeight mode state) force) s' := by
  obtain ⟨_, s', ok⟩ := (setBufferRotation_returns_iff env).mpr takes
  refine ⟨s', setBufferRotation_returned env ok, ?_⟩
  rw [setDisplayInfo_eq, Outcomes.after_bind_ok ok]

theorem scaled_followClient_iff {s : Buffered ℚ τ} (filled : SourceFilled s.pixels) :
    Scaled (Outcomes.after (followClient env) s).pixels ↔
      ClientSized s.pixels ∨ env.accepts s.pixels.mClientWidth s.pixels.mClientHeight = true := by
  rw [followClient_pixels env]
  split_ifs with follows
  · exact iff_of_true (scaled_followed filled) follows
  · rw [scaled_windowed_iff filled]
    exact iff_of_false (fun sized => follows (Or.inl sized)) follows

/-! ### Runs -/

/-- A buffer, the display as last reported, and whether a client has asked for a window. -/
structure Reported (τ : Type) where
  buffer : Buffered ℚ τ
  mode : Size
  state : Rotation
  resized : Bool
  deriving DecidableEq, Repr

def reportStep (s : Reported τ) (call : BufferCall) : Reported τ :=
  let buffer := bufferStep env s.buffer call
  match call with
  | .setDisplayInfo mode state _ => { s with buffer := buffer, mode := mode, state := state }
  | .setWindowSize _ _ => { s with buffer := buffer, resized := true }

structure Matches (b : PixelBuffer ℚ) (mode : Size) (state : Rotation) (resized : Bool) : Prop where
  source : b.mSourceWidth = orientedWidth mode state ∧ b.mSourceHeight = orientedHeight mode state
  scaled : Scaled b
  whole : resized = false → b.width = orientedWidth mode state ∧ b.height = orientedHeight mode state

def MatchesAfter (s : Reported τ) (call : BufferCall) : Prop :=
  let after := reportStep env s call
  Matches after.buffer.pixels after.mode after.state after.resized

/-- A window is remembered, or the buffer's, or taken. A report whose turn throws, or that turns the
buffer without a new source, finds the oriented size as it was; and a turn without a new source
finds an empty or a square side. Another report finds the buffer as large as it wants it, or its
size is taken. -/
def KeepsMatch (s : Buffered ℚ τ) : BufferCall → Prop
  | .setWindowSize width height =>
    (s.pixels.mClientWidth = width ∧ s.pixels.mClientHeight = height) ∨
      (width = s.pixels.width ∧ height = s.pixels.height) ∨ env.accepts width height = true
  | .setDisplayInfo mode state force =>
    let rotated := isDisplayRotated state
    let w := orientedWidth mode state
    let h := orientedHeight mode state
    let turned := s.pixels.turned rotated
    (¬TakesTurn env s rotated → (w = s.pixels.mSourceWidth ∧ h = s.pixels.mSourceHeight) ∧
      (env.accepts s.pixels.height s.pixels.width = true → Transposes s.pixels)) ∧
    (TakesTurn env s rotated → w = s.pixels.mSourceWidth ∧ h = s.pixels.mSourceHeight ∧ force = false →
      rotated = s.pixels.mRotated ∨ Transposes s.pixels) ∧
    (TakesTurn env s rotated → ¬(w = s.pixels.mSourceWidth ∧ h = s.pixels.mSourceHeight ∧ force = false) →
      (turned.sourced w h).scaledWidth = turned.width ∧ (turned.sourced w h).scaledHeight = turned.height ∨
        env.accepts (turned.sourced w h).scaledWidth (turned.sourced w h).scaledHeight = true)

/-- What a run keeps: the buffer matches a display of a positive mode. -/
structure MatchesPositive (s : Reported τ) : Prop where
  positive : s.mode.Positive
  shown : Matches s.buffer.pixels s.mode s.state s.resized

theorem MatchesPositive.filled {s : Reported τ} (good : MatchesPositive s) : SourceFilled s.buffer.pixels := by
  obtain ⟨width, height⟩ := good.shown.source
  rw [SourceFilled, width, height]
  exact ⟨orientedWidth_ne_zero good.positive s.state, orientedHeight_ne_zero good.positive s.state⟩

theorem followClient_source (s : Buffered ℚ τ) :
    (Outcomes.after (followClient env) s).pixels.mSourceWidth = s.pixels.mSourceWidth ∧
      (Outcomes.after (followClient env) s).pixels.mSourceHeight = s.pixels.mSourceHeight := by
  rw [followClient_pixels env]
  split_ifs <;> exact ⟨rfl, rfl⟩

theorem turned_source (b : PixelBuffer ℚ) (rotated : Bool) :
    (b.turned rotated).mSourceWidth = b.mSourceWidth ∧ (b.turned rotated).mSourceHeight = b.mSourceHeight := by
  rw [PixelBuffer.turned]
  split_ifs <;> exact ⟨rfl, rfl⟩

theorem window_matches_iff {s : Reported τ} (good : MatchesPositive s) (width height : UInt32) :
    MatchesAfter env s (.setWindowSize width height) ↔ KeepsMatch env s.buffer (.setWindowSize width height) := by
  have pixels := setWindowSize_pixels env width height s.buffer
  show Matches (Outcomes.after (setWindowSize env width height) s.buffer).pixels s.mode s.state true ↔ _
  rw [pixels, KeepsMatch]
  split_ifs with known
  · refine iff_of_true ⟨good.shown.source, good.shown.scaled, ?_⟩ (Or.inl known)
    exact fun whole => Bool.noConfusion whole
  · have filled : SourceFilled (s.buffer.with (s.buffer.pixels.clientSized width height)).pixels := good.filled
    have scaled := scaled_followClient_iff env filled
    have source := followClient_source env (s.buffer.with (s.buffer.pixels.clientSized width height))
    constructor
    · intro after
      exact Or.inr (scaled.mp after.scaled)
    · intro keeps
      refine ⟨?_, scaled.mpr (keeps.resolve_left known), fun whole => Bool.noConfusion whole⟩
      rw [source.1, source.2]
      exact good.shown.source

theorem turned_matches_iff {s : Reported τ} (good : MatchesPositive s) (mode : Size) (state : Rotation) :
    Matches (s.buffer.pixels.turned (isDisplayRotated state)) mode state s.resized ↔
      (orientedWidth mode state = s.buffer.pixels.mSourceWidth ∧
        orientedHeight mode state = s.buffer.pixels.mSourceHeight) ∧
      (isDisplayRotated state = s.buffer.pixels.mRotated ∨ Transposes s.buffer.pixels) := by
  have scaled := scaled_turned_iff good.filled good.shown.scaled (isDisplayRotated state)
  obtain ⟨width, height⟩ := turned_source s.buffer.pixels (isDisplayRotated state)
  constructor
  · intro after
    obtain ⟨w, h⟩ := after.source
    exact ⟨⟨w.symm.trans width, h.symm.trans height⟩, scaled.mp after.scaled⟩
  · rintro ⟨⟨w, h⟩, straight⟩
    refine ⟨⟨width.trans w.symm, height.trans h.symm⟩, scaled.mpr straight, fun unresized => ?_⟩
    obtain ⟨wide, high⟩ := good.shown.whole unresized
    obtain ⟨sourceWidth, sourceHeight⟩ := good.shown.source
    rw [w, h, sourceWidth, sourceHeight, PixelBuffer.turned]
    split_ifs with same
    · exact ⟨wide, high⟩
    · -- an unresized buffer is as large as the source, so the source is square
      have transposes := straight.resolve_left same
      have filled : s.buffer.pixels.width ≠ 0 := by
        rw [wide]
        exact orientedWidth_ne_zero good.positive s.state
      have square := transposes.1.resolve_left filled
      rw [sourceWidth, sourceHeight] at square
      exact ⟨high.trans square.symm, wide.trans square⟩

theorem flagged_matches_iff {s : Reported τ} (good : MatchesPositive s) (mode : Size) (state : Rotation)
    (rotated : Bool) : Matches { s.buffer.pixels with mRotated := rotated } mode state s.resized ↔
      orientedWidth mode state = s.buffer.pixels.mSourceWidth ∧
        orientedHeight mode state = s.buffer.pixels.mSourceHeight := by
  constructor
  · intro after
    exact ⟨after.source.1.symm, after.source.2.symm⟩
  · rintro ⟨w, h⟩
    refine ⟨⟨w.symm, h.symm⟩, good.shown.scaled, fun unresized => ?_⟩
    rw [w, h, good.shown.source.1, good.shown.source.2]
    exact good.shown.whole unresized

theorem scaled_whole {scale : ℚ} {source size w : UInt32} (filled : source ≠ 0)
    (scaled : scale * source.toNat = size.toNat) (same : size = source) : toUInt32 (w.toNat * scale) = w := by
  rw [same] at scaled
  have one : scale = 1 := mul_right_cancel₀ (toNat_ne_zero filled) (scaled.trans (one_mul _).symm)
  rw [one, mul_one, toUInt32_natCast]

theorem turned_scaled_whole {s : Reported τ} (good : MatchesPositive s) (unresized : s.resized = false)
    (rotated : Bool) (w h : UInt32) :
    ((s.buffer.pixels.turned rotated).sourced w h).scaledWidth = w ∧
      ((s.buffer.pixels.turned rotated).sourced w h).scaledHeight = h := by
  obtain ⟨wide, high⟩ := good.shown.whole unresized
  obtain ⟨sourceWidth, sourceHeight⟩ := good.shown.source
  obtain ⟨filledWidth, filledHeight⟩ := good.filled
  obtain ⟨scaledX, scaledY⟩ := good.shown.scaled
  have width := scaled_whole (w := w) filledWidth scaledX (wide.trans sourceWidth.symm)
  have height := scaled_whole (w := h) filledHeight scaledY (high.trans sourceHeight.symm)
  have width' := scaled_whole (w := h) filledWidth scaledX (wide.trans sourceWidth.symm)
  have height' := scaled_whole (w := w) filledHeight scaledY (high.trans sourceHeight.symm)
  rw [PixelBuffer.turned]
  split_ifs
  · exact ⟨width, height⟩
  · exact ⟨height', width'⟩

theorem resourced_matches_iff {s : Reported τ} (good : MatchesPositive s) {mode : Size} (positive : mode.Positive)
    (state : Rotation) {t : Buffered ℚ τ} (turned : t.pixels = s.buffer.pixels.turned (isDisplayRotated state)) :
    let sourced := t.pixels.sourced (orientedWidth mode state) (orientedHeight mode state)
    Matches (Outcomes.after (followClient env)
        (t.with (sourced.clientSized sourced.scaledWidth sourced.scaledHeight))).pixels mode state s.resized ↔
      sourced.scaledWidth = t.pixels.width ∧ sourced.scaledHeight = t.pixels.height ∨
        env.accepts sourced.scaledWidth sourced.scaledHeight = true := by
  intro sourced
  let resized := t.with (sourced.clientSized sourced.scaledWidth sourced.scaledHeight)
  have filled : SourceFilled resized.pixels :=
    ⟨orientedWidth_ne_zero positive state, orientedHeight_ne_zero positive state⟩
  have scaled := scaled_followClient_iff env filled
  have source := followClient_source env resized
  constructor
  · intro after
    exact scaled.mp after.scaled
  · intro follows
    refine ⟨source, scaled.mpr follows, fun unresized => ?_⟩
    have whole := turned_scaled_whole good unresized (isDisplayRotated state)
      (orientedWidth mode state) (orientedHeight mode state)
    rw [← turned] at whole
    have pixels := followClient_pixels env resized
    rw [if_pos (by exact follows)] at pixels
    exact ⟨(congrArg PixelBuffer.width pixels).trans whole.1,
      (congrArg PixelBuffer.height pixels).trans whole.2⟩

theorem report_matches_iff {s : Reported τ} (good : MatchesPositive s) {mode : Size} (positive : mode.Positive)
    (state : Rotation) (force : Bool) : MatchesAfter env s (.setDisplayInfo mode state force) ↔
      KeepsMatch env s.buffer (.setDisplayInfo mode state force) := by
  show Matches (Outcomes.after (setDisplayInfo env mode state force) s.buffer).pixels mode state s.resized ↔ _
  unfold KeepsMatch
  by_cases takes : TakesTurn env s.buffer (isDisplayRotated state)
  · obtain ⟨t, turned, after⟩ := setDisplayInfo_turns env mode force takes
    obtain ⟨width, height⟩ := turned_source s.buffer.pixels (isDisplayRotated state)
    have pixels := setSource_pixels env (orientedWidth mode state) (orientedHeight mode state) force t
    rw [turned, width, height] at pixels
    rw [after, pixels]
    split_ifs with known
    · rw [turned_matches_iff good mode state]
      simp [takes, known]
    · have resourced := resourced_matches_iff env good positive state turned
      simp only [turned] at resourced
      simp [takes, known, resourced]
  · rw [setDisplayInfo_throws env takes]
    have turns : isDisplayRotated state ≠ s.buffer.pixels.mRotated :=
      fun same => takes fun differs => absurd same differs
    split_ifs with accepted
    · rw [turned_matches_iff good mode state]
      simp [takes, turns, accepted]
    · rw [flagged_matches_iff good mode state]
      simp [takes, accepted]

theorem matches_first {mode : Size} (positive : mode.Positive) (state : Rotation) :
    Matches (.first (isDisplayRotated state) (orientedWidth mode state) (orientedHeight mode state))
      mode state false where
  source := ⟨rfl, rfl⟩
  scaled := ⟨div_mul_cancel₀ _ (toNat_ne_zero (orientedWidth_ne_zero positive state)),
    div_mul_cancel₀ _ (toNat_ne_zero (orientedHeight_ne_zero positive state))⟩
  whole := fun _ => ⟨unscaled_exact _, unscaled_exact _⟩

theorem matchesPositive_step {s : Reported τ} (good : MatchesPositive s) {call : BufferCall}
    (positive : call.Positive) (after : MatchesAfter env s call) : MatchesPositive (reportStep env s call) := by
  refine ⟨?_, after⟩
  cases call with
  | setDisplayInfo mode state force => exact positive
  | setWindowSize width height => exact good.positive

/-- After a first forced report that returned, the framebuffer matches the display after each call
of a run exactly when each call keeps the match. -/
theorem framebuffer_matches_along_run {mode : Size} (positive : mode.Positive) {state : Rotation}
    {clientWidth clientHeight sourceWidth sourceHeight : UInt32} {listener : τ} {s : Buffered ℚ τ}
    (first : setDisplayInfo env mode state true
      { pixels := .constructed clientWidth clientHeight sourceWidth sourceHeight, listener := listener } = .ok () s)
    (run : List BufferCall) (calls : ∀ call ∈ run, call.Positive) :
    Matches s.pixels mode state false ∧
    (Runs.Along (reportStep env) (MatchesAfter env) ⟨s, mode, state, false⟩ run ↔
      Runs.Along (reportStep env) (fun s call => KeepsMatch env s.buffer call) ⟨s, mode, state, false⟩ run) := by
  have shown : Matches s.pixels mode state false := by
    rw [setDisplayInfo_returned first, reported_constructed]
    exact matches_first positive state
  refine ⟨shown, Runs.along_iff (I := MatchesPositive) ⟨positive, shown⟩ ?_ ?_⟩
  · intro s call member good
    cases call with
    | setDisplayInfo mode state force =>
      exact report_matches_iff env good (calls _ member) state force
    | setWindowSize width height => exact window_matches_iff env good width height
  · intro s call member good after
    exact matchesPositive_step env good (calls call member) after

/-- An upright display of 1080 by 1920, just reported to a new buffer. -/
def freshlyReported : Buffered ℚ Unit :=
  Outcomes.after (setDisplayInfo .calm ⟨1080, 1920⟩ .rotation0 true)
    { pixels := .constructed 0 0 0 0, listener := () }

theorem first_report : setDisplayInfo .calm ⟨1080, 1920⟩ .rotation0 true
    { pixels := .constructed 0 0 0 0, listener := () } = .ok () freshlyReported :=
  Outcomes.ok_of_value (by decide +kernel)

theorem framebuffer_matches_turned :
    Matches freshlyReported.pixels ⟨1080, 1920⟩ .rotation0 false ∧
    (Runs.Along (reportStep .calm) (MatchesAfter .calm) ⟨freshlyReported, ⟨1080, 1920⟩, .rotation0, false⟩
        [.setDisplayInfo ⟨1080, 1920⟩ .rotation90 false, .setWindowSize 960 540] ↔
      Runs.Along (reportStep .calm) (fun s call => KeepsMatch .calm s.buffer call)
        ⟨freshlyReported, ⟨1080, 1920⟩, .rotation0, false⟩
        [.setDisplayInfo ⟨1080, 1920⟩ .rotation90 false, .setWindowSize 960 540]) :=
  framebuffer_matches_along_run .calm (by decide) first_report _ (by decide)

/-- A quarter turn that comes with the mode on its side turns the buffer, and not the source. -/
theorem mode_turned_with_display :
    setDisplayInfo .calm ⟨1080, 1920⟩ .rotation0 true
      { pixels := .constructed 0 0 0 0, listener := () } = .ok () freshlyReported ∧
    ¬Runs.Along (reportStep .calm) (MatchesAfter .calm) ⟨freshlyReported, ⟨1080, 1920⟩, .rotation0, false⟩
      [.setDisplayInfo ⟨1920, 1080⟩ .rotation90 false] := by
  refine ⟨first_report, ?_⟩
  rintro ⟨after, _⟩
  have whole := (after.whole rfl).1
  have width : (reportStep .calm ⟨freshlyReported, ⟨1080, 1920⟩, .rotation0, false⟩
      (.setDisplayInfo ⟨1920, 1080⟩ .rotation90 false)).buffer.pixels.width = 1920 := by
    decide +kernel
  rw [width] at whole
  exact absurd whole (by decide)

end VncFlinger.Display
