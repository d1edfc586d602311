import VncFlinger.Display.Matching
import VncFlinger.Display.Sizes

/-!
# Turning a display of one mode

A quarter turn puts the whole buffer on its side, and the next one brings it back. A window that
`setSize` refused keeps its scale through the turns.
-/

namespace VncFlinger.Display

/-- The buffer on its side. For a square source the client size is left as it is. -/
def PixelBuffer.quarter (b : PixelBuffer ℚ) : PixelBuffer ℚ :=
  { width := b.height, height := b.width, mRotated := !b.mRotated
    mClientWidth := if b.mSourceWidth = b.mSourceHeight then b.mClientWidth else b.mClientHeight
    mClientHeight := if b.mSourceWidth = b.mSourceHeight then b.mClientHeight else b.mClientWidth
    mSourceWidth := b.mSourceHeight, mSourceHeight := b.mSourceWidth
    mScaleX := b.mScaleY, mScaleY := b.mScaleX }

theorem quarter_quarter (b : PixelBuffer ℚ) : b.quarter.quarter = b := by
  obtain ⟨width, height, rotated, clientWidth, clientHeight, sourceWidth, sourceHeight, scaleX, scaleY⟩ := b
  simp only [PixelBuffer.quarter, Bool.not_not, eq_comm (a := sourceHeight)]
  split_ifs <;> rfl

variable {τ : Type}

/-- `setSize` bounds both directions alike, and the listener returns from a size that is not empty. -/
structure BufferEnv.Even (env : BufferEnv ℚ τ) : Prop where
  symmetric : ∀ w h, env.accepts w h = env.accepts h w
  returns : ∀ b listener, 0 < b.width ∧ 0 < b.height →
    ∃ listener', env.onBufferDimensionsChanged b b.width b.height listener = .ok () listener'

/-- The source is the mode, and the scale of the source is the window, which the buffer has unless
it was refused. -/
structure Steady (env : BufferEnv ℚ τ) (mode : Size) (b : PixelBuffer ℚ) : Prop where
  sourceWidth : b.mSourceWidth = if b.mRotated then mode.height.toUInt32 else mode.width.toUInt32
  sourceHeight : b.mSourceHeight = if b.mRotated then mode.width.toUInt32 else mode.height.toUInt32
  filled : 0 < b.width ∧ 0 < b.height
  accepted : env.accepts b.width b.height = true
  window : ∃ cx cy : UInt32,
    (b.mScaleX * b.mSourceWidth.toNat = cx.toNat ∧ b.mScaleY * b.mSourceHeight.toNat = cy.toNat) ∧
      (cx = b.width ∧ cy = b.height ∨ env.accepts cx cy = false) ∧
      (b.mSourceWidth ≠ b.mSourceHeight → b.mClientWidth = cx ∧ b.mClientHeight = cy)

variable {env : BufferEnv ℚ τ} {mode : Size}

theorem Steady.sourceFilled {b : PixelBuffer ℚ} (steady : Steady env mode b) (positive : mode.Positive) :
    SourceFilled b := by
  have wide := toUInt32_ne_zero positive.1
  have high := toUInt32_ne_zero positive.2
  rw [SourceFilled, steady.sourceWidth, steady.sourceHeight]
  split
  · exact ⟨high, wide⟩
  · exact ⟨wide, high⟩

theorem Steady.same {b : PixelBuffer ℚ} (steady : Steady env mode b) {state : Rotation}
    (same : isDisplayRotated state = b.mRotated) :
    orientedWidth mode state = b.mSourceWidth ∧ orientedHeight mode state = b.mSourceHeight := by
  rw [orientedWidth, orientedHeight, same]
  exact ⟨steady.sourceWidth.symm, steady.sourceHeight.symm⟩

theorem Steady.turned {b : PixelBuffer ℚ} (steady : Steady env mode b) {state : Rotation}
    (turns : isDisplayRotated state = !b.mRotated) :
    orientedWidth mode state = b.mSourceHeight ∧ orientedHeight mode state = b.mSourceWidth := by
  rw [orientedWidth, orientedHeight, turns, steady.sourceWidth, steady.sourceHeight]
  cases b.mRotated <;> exact ⟨rfl, rfl⟩

theorem Steady.quarter {b : PixelBuffer ℚ} (steady : Steady env mode b) (even : env.Even) :
    Steady env mode b.quarter where
  sourceWidth := by
    show b.mSourceHeight = if (!b.mRotated) = true then mode.height.toUInt32 else mode.width.toUInt32
    rw [steady.sourceHeight]
    cases b.mRotated <;> rfl
  sourceHeight := by
    show b.mSourceWidth = if (!b.mRotated) = true then mode.width.toUInt32 else mode.height.toUInt32
    rw [steady.sourceWidth]
    cases b.mRotated <;> rfl
  filled := ⟨steady.filled.2, steady.filled.1⟩
  accepted := by
    show env.accepts b.height b.width = true
    rw [even.symmetric]
    exact steady.accepted
  window := by
    obtain ⟨cx, cy, ⟨scaleX, scaleY⟩, taken, client⟩ := steady.window
    refine ⟨cy, cx, ⟨scaleY, scaleX⟩, ?_, ?_⟩
    · rcases taken with ⟨width, height⟩ | refused
      · exact Or.inl ⟨height, width⟩
      · rw [even.symmetric] at refused
        exact Or.inr refused
    · intro oblong
      have differs : ¬b.mSourceWidth = b.mSourceHeight := fun same => oblong same.symm
      obtain ⟨clientWidth, clientHeight⟩ := client differs
      show (if b.mSourceWidth = b.mSourceHeight then b.mClientWidth else b.mClientHeight) = cy ∧
        (if b.mSourceWidth = b.mSourceHeight then b.mClientHeight else b.mClientWidth) = cx
      rw [if_neg differs, if_neg differs]
      exact ⟨clientHeight, clientWidth⟩

/-! ### One report -/

theorem half_turn {s : Buffered ℚ τ} (steady : Steady env mode s.pixels) {state : Rotation}
    (same : isDisplayRotated state = s.pixels.mRotated) : setDisplayInfo env mode state false s = .ok () s := by
  obtain ⟨width, height⟩ := steady.same same
  rw [setDisplayInfo_eq, Outcomes.bind_ok (setBufferRotation_same env same), setSource_apply,
    if_pos ⟨width, height, rfl⟩]

/-- The first part of a quarter turn: the buffer and the scales, and the one notification. -/
theorem turn_returns (even : env.Even) {s : Buffered ℚ τ} (steady : Steady env mode s.pixels) {rotated : Bool}
    (turns : rotated ≠ s.pixels.mRotated) :
    ∃ s', setBufferRotation env rotated s = .ok () s' ∧ s'.pixels = s.pixels.turned rotated ∧
      s'.notified = s.notified ++ [(s.pixels.height, s.pixels.width)] := by
  have accepted : env.accepts s.pixels.height s.pixels.width = true := by
    rw [even.symmetric]
    exact steady.accepted
  have takes : TakesTurn env s rotated := by
    intro _
    refine ⟨accepted, ?_⟩
    have returns := even.returns (s.pixels.turned rotated) s.listener
    have width : (s.pixels.turned rotated).width = s.pixels.height := by rw [PixelBuffer.turned, if_neg turns]
    have height : (s.pixels.turned rotated).height = s.pixels.width := by rw [PixelBuffer.turned, if_neg turns]
    rw [width, height] at returns
    exact returns ⟨steady.filled.2, steady.filled.1⟩
  obtain ⟨_, s', ok⟩ := (setBufferRotation_returns_iff env).mpr takes
  have announces := setBufferRotation_announces env turns accepted
  rw [Outcomes.after_ok ok] at announces
  exact ⟨s', ok, setBufferRotation_returned env ok, announces.notified⟩

/-- The second part for a source that is not square. The client size follows its own transpose,
which the buffer already has or will not get. -/
theorem source_turns (even : env.Even) (positive : mode.Positive) {b : PixelBuffer ℚ} (steady : Steady env mode b)
    (oblong : b.mSourceWidth ≠ b.mSourceHeight) {s : Buffered ℚ τ} (turned : s.pixels = b.turned (!b.mRotated)) :
    (Outcomes.after (setSource env b.mSourceHeight b.mSourceWidth false) s).pixels = b.quarter ∧
      (Outcomes.after (setSource env b.mSourceHeight b.mSourceWidth false) s).notified = s.notified := by
  obtain ⟨cx, cy, ⟨scaleX, scaleY⟩, taken, client⟩ := steady.window
  obtain ⟨clientWidth, clientHeight⟩ := client oblong
  obtain ⟨wide, high⟩ := steady.sourceFilled positive
  have width : toUInt32 (b.mSourceHeight.toNat * b.mScaleY) = cy := by
    rw [mul_comm, scaleY, toUInt32_natCast]
  have height : toUInt32 (b.mSourceWidth.toNat * b.mScaleX) = cx := by
    rw [mul_comm, scaleX, toUInt32_natCast]
  have quotientX : (cy.toNat : ℚ) / b.mSourceHeight.toNat = b.mScaleY := by
    rw [← scaleY, mul_div_cancel_right₀ _ (toNat_ne_zero high)]
  have quotientY : (cx.toNat : ℚ) / b.mSourceWidth.toNat = b.mScaleX := by
    rw [← scaleX, mul_div_cancel_right₀ _ (toNat_ne_zero wide)]
  have sourced : (s.pixels.sourced b.mSourceHeight b.mSourceWidth).clientSized
      (s.pixels.sourced b.mSourceHeight b.mSourceWidth).scaledWidth
      (s.pixels.sourced b.mSourceHeight b.mSourceWidth).scaledHeight = b.quarter := by
    rw [turned, PixelBuffer.turned, if_neg (Bool.not_ne_self b.mRotated)]
    simp only [PixelBuffer.sourced, PixelBuffer.clientSized, PixelBuffer.scaledWidth, PixelBuffer.scaledHeight,
      PixelBuffer.quarter, ofUInt32_exact, toUInt32_exact, width, height, if_neg oblong, clientWidth, clientHeight]
  have quarterWidth : b.quarter.mClientWidth = cy := (if_neg oblong).trans clientHeight
  have quarterHeight : b.quarter.mClientHeight = cx := (if_neg oblong).trans clientWidth
  have windowed : b.quarter.windowed cy cx = b.quarter := by
    simp only [PixelBuffer.windowed, PixelBuffer.quarter, ofUInt32_exact, quotientX, quotientY, if_neg oblong, clientWidth,
      clientHeight]
  have run := setSource_apply env b.mSourceHeight b.mSourceWidth false s
  have new : ¬(b.mSourceHeight = s.pixels.mSourceWidth ∧ b.mSourceWidth = s.pixels.mSourceHeight ∧ false = false) := by
    rw [turned, (turned_source b _).1]
    exact fun known => oblong known.1.symm
  rw [if_neg new] at run
  simp only [sourced] at run
  have follow := followClient_apply env (s.with b.quarter)
  simp only [Buffered.with, quarterWidth, quarterHeight, windowed] at follow
  rcases taken with ⟨sizeX, sizeY⟩ | refused
  · have same : cy = b.quarter.width ∧ cx = b.quarter.height := ⟨sizeY, sizeX⟩
    rw [if_pos same] at follow
    rw [Outcomes.after_ok (run.trans follow)]
    exact ⟨rfl, rfl⟩
  · have refused' : ¬env.accepts cy cx = true := by
      rw [even.symmetric, refused]
      exact Bool.false_ne_true
    rw [if_neg refused'] at follow
    have both : followClient env (s.with b.quarter) = .ok () (s.with b.quarter) ∨
        followClient env (s.with b.quarter) = .error () (s.with b.quarter) := by
      split_ifs at follow
      · exact Or.inl follow
      · exact Or.inr follow
    rcases both with quiet | throws
    · rw [Outcomes.after_ok (run.trans quiet)]
      exact ⟨rfl, rfl⟩
    · rw [Outcomes.after_error (run.trans throws)]
      exact ⟨rfl, rfl⟩

theorem quarter_turn (even : env.Even) (positive : mode.Positive) {s : Buffered ℚ τ}
    (steady : Steady env mode s.pixels) {state : Rotation} (turns : isDisplayRotated state ≠ s.pixels.mRotated) :
    (Outcomes.after (setDisplayInfo env mode state false) s).pixels = s.pixels.quarter ∧
      (Outcomes.after (setDisplayInfo env mode state false) s).notified =
        s.notified ++ [(s.pixels.height, s.pixels.width)] := by
  have flips : isDisplayRotated state = !s.pixels.mRotated := by
    cases h : s.pixels.mRotated <;> cases h' : isDisplayRotated state <;> simp_all
  obtain ⟨s', ok, turned, notified⟩ := turn_returns even steady turns
  obtain ⟨width, height⟩ := steady.turned flips
  rw [setDisplayInfo_eq, Outcomes.after_bind_ok ok, width, height]
  rw [flips] at turned
  by_cases square : s.pixels.mSourceWidth = s.pixels.mSourceHeight
  · -- the turned source is the source, so the report ends here
    have known : s.pixels.mSourceHeight = s'.pixels.mSourceWidth ∧
        s.pixels.mSourceWidth = s'.pixels.mSourceHeight ∧ false = false := by
      obtain ⟨sourceWidth, sourceHeight⟩ := turned_source s.pixels (!s.pixels.mRotated)
      rw [turned, sourceWidth, sourceHeight]
      exact ⟨square.symm, square, rfl⟩
    have run := setSource_apply env s.pixels.mSourceHeight s.pixels.mSourceWidth false s'
    rw [if_pos known] at run
    rw [Outcomes.after_ok run]
    refine ⟨?_, notified⟩
    rw [turned, PixelBuffer.turned, if_neg (Bool.not_ne_self _), PixelBuffer.quarter, if_pos square, if_pos square]
    simp only [square]
  · obtain ⟨pixels, quiet⟩ := source_turns even positive steady square turned
    exact ⟨pixels, quiet.trans notified⟩

theorem steady_report (even : env.Even) (positive : mode.Positive) {s : Buffered ℚ τ}
    (steady : Steady env mode s.pixels) (state : Rotation) :
    Steady env mode (Outcomes.after (setDisplayInfo env mode state false) s).pixels := by
  by_cases same : isDisplayRotated state = s.pixels.mRotated
  · rw [Outcomes.after_ok (half_turn steady same)]
    exact steady
  · rw [(quarter_turn even positive steady same).1]
    exact steady.quarter even

/-! ### A window -/

theorem steady_window (positive : mode.Positive) {s : Buffered ℚ τ} (steady : Steady env mode s.pixels)
    {width height : UInt32} (filled : 0 < width ∧ 0 < height) :
    Steady env mode (Outcomes.after (setWindowSize env width height) s).pixels := by
  obtain ⟨wide, high⟩ := steady.sourceFilled positive
  have scaleX : (width.toNat : ℚ) / s.pixels.mSourceWidth.toNat * s.pixels.mSourceWidth.toNat = width.toNat :=
    div_mul_cancel₀ _ (toNat_ne_zero wide)
  have scaleY : (height.toNat : ℚ) / s.pixels.mSourceHeight.toNat * s.pixels.mSourceHeight.toNat = height.toNat :=
    div_mul_cancel₀ _ (toNat_ne_zero high)
  rw [setWindowSize_pixels, followClient_pixels]
  split_ifs with known follows
  · exact steady
  · have accepted : env.accepts width height = true := by
      rcases follows with same | accepted
      · have sizes : width = s.pixels.width ∧ height = s.pixels.height := same
        rw [sizes.1, sizes.2]
        exact steady.accepted
      · exact accepted
    exact ⟨steady.sourceWidth, steady.sourceHeight, filled, accepted,
      width, height, ⟨scaleX, scaleY⟩, Or.inl ⟨rfl, rfl⟩, fun _ => ⟨rfl, rfl⟩⟩
  · have refused : env.accepts width height = false := Bool.eq_false_iff.mpr (not_or.mp follows).2
    exact ⟨steady.sourceWidth, steady.sourceHeight, steady.filled, steady.accepted,
      width, height, ⟨scaleX, scaleY⟩, Or.inr refused, fun _ => ⟨rfl, rfl⟩⟩

/-! ### Runs -/

/-- A call that keeps the mode: a report of any orientation without force, or a window. -/
def BufferCall.Keeps (mode : Size) : BufferCall → Prop
  | .setDisplayInfo mode' _ force => mode' = mode ∧ force = false
  | .setWindowSize width height => 0 < width ∧ 0 < height

def turnTo (env : BufferEnv ℚ τ) (mode : Size) (s : Buffered ℚ τ) (state : Rotation) : Buffered ℚ τ :=
  Outcomes.after (setDisplayInfo env mode state false) s

/-- What turning the display does to the buffer from here on. -/
structure TurnsExactly (env : BufferEnv ℚ τ) (mode : Size) (s : Buffered ℚ τ) : Prop where
  size : ∀ state, isDisplayRotated state ≠ s.pixels.mRotated →
    (turnTo env mode s state).pixels.width = s.pixels.height ∧
      (turnTo env mode s state).pixels.height = s.pixels.width
  source : ∀ state, isDisplayRotated state ≠ s.pixels.mRotated →
    (turnTo env mode s state).pixels.mSourceWidth = s.pixels.mSourceHeight ∧
      (turnTo env mode s state).pixels.mSourceHeight = s.pixels.mSourceWidth
  scale : ∀ state, isDisplayRotated state ≠ s.pixels.mRotated →
    (turnTo env mode s state).pixels.mScaleX = s.pixels.mScaleY ∧
      (turnTo env mode s state).pixels.mScaleY = s.pixels.mScaleX
  notified : ∀ state, isDisplayRotated state ≠ s.pixels.mRotated →
    (turnTo env mode s state).notified = s.notified ++ [(s.pixels.height, s.pixels.width)]
  half : ∀ state, isDisplayRotated state = s.pixels.mRotated → turnTo env mode s state = s
  back : ∀ states : List Rotation,
    (states.foldl (turnTo env mode) s).pixels.mRotated = s.pixels.mRotated →
      (states.foldl (turnTo env mode) s).pixels = s.pixels

/-- Through any turns the buffer is as it was, or on its side. -/
theorem turns_side (even : env.Even) (positive : mode.Positive) (states : List Rotation) {s : Buffered ℚ τ}
    (steady : Steady env mode s.pixels) :
    (states.foldl (turnTo env mode) s).pixels = s.pixels ∨
      (states.foldl (turnTo env mode) s).pixels = s.pixels.quarter := by
  induction states generalizing s with
  | nil => exact Or.inl rfl
  | cons state states ih =>
    have later := ih (steady_report even positive steady state)
    rw [List.foldl_cons]
    by_cases same : isDisplayRotated state = s.pixels.mRotated
    · have half : turnTo env mode s state = s := Outcomes.after_ok (half_turn steady same)
      rw [half]
      exact ih steady
    · have pixels : (turnTo env mode s state).pixels = s.pixels.quarter :=
        (quarter_turn even positive steady same).1
      have later : (states.foldl (turnTo env mode) (turnTo env mode s state)).pixels =
            (turnTo env mode s state).pixels ∨
          (states.foldl (turnTo env mode) (turnTo env mode s state)).pixels =
            (turnTo env mode s state).pixels.quarter := later
      rw [pixels, quarter_quarter] at later
      exact later.symm

theorem Steady.turnsExactly (even : env.Even) (positive : mode.Positive) {s : Buffered ℚ τ}
    (steady : Steady env mode s.pixels) : TurnsExactly env mode s := by
  have turned : ∀ state, isDisplayRotated state ≠ s.pixels.mRotated →
      (turnTo env mode s state).pixels = s.pixels.quarter := fun state turns =>
    (quarter_turn even positive steady turns).1
  refine ⟨?_, ?_, ?_, ?_, ?_, ?_⟩
  · intro state turns
    rw [turned state turns]
    exact ⟨rfl, rfl⟩
  · intro state turns
    rw [turned state turns]
    exact ⟨rfl, rfl⟩
  · intro state turns
    rw [turned state turns]
    exact ⟨rfl, rfl⟩
  · intro state turns
    exact (quarter_turn even positive steady turns).2
  · intro state same
    exact Outcomes.after_ok (half_turn steady same)
  · intro states upright
    rcases turns_side even positive states steady with same | side
    · exact same
    · rw [side] at upright
      exact absurd upright (Bool.not_ne_self _)

theorem steady_run (even : env.Even) (positive : mode.Positive) (run : List BufferCall)
    (keeps : ∀ call ∈ run, call.Keeps mode) {s : Buffered ℚ τ} (steady : Steady env mode s.pixels) :
    Steady env mode (run.foldl (bufferStep env) s).pixels := by
  refine Runs.foldl_invariant (I := fun s : Buffered ℚ τ => Steady env mode s.pixels) steady ?_
  intro s call member steady
  have here := keeps call member
  cases call with
  | setDisplayInfo mode' state force =>
    obtain ⟨rfl, rfl⟩ := here
    exact steady_report even positive steady state
  | setWindowSize width height => exact steady_window positive steady here

/-- `setSize` has taken the size of the first report. -/
theorem first_accepted (positive : mode.Positive) {state : Rotation}
    {clientWidth clientHeight sourceWidth sourceHeight : UInt32} {listener : τ} {s : Buffered ℚ τ}
    (first : setDisplayInfo env mode state true
      { pixels := .constructed clientWidth clientHeight sourceWidth sourceHeight, listener := listener } = .ok () s) :
    env.accepts s.pixels.width s.pixels.height = true := by
  have hears : Hears env (fun _ => True) fun w h _ => env.accepts w h = true :=
    fun _ _ _ accepted => ⟨trivial, accepted⟩
  have informed := informs_setDisplayInfo hears mode state true
    { pixels := .constructed clientWidth clientHeight sourceWidth sourceHeight, listener := listener } trivial
  rw [Outcomes.after_ok first] at informed
  refine informed.2.resolve_right ?_
  rintro ⟨⟨width, _⟩, _⟩
  rw [setDisplayInfo_returned first, reported_constructed, first_exact] at width
  exact orientedWidth_ne_zero positive state width

theorem steady_first (positive : mode.Positive) {state : Rotation}
    {clientWidth clientHeight sourceWidth sourceHeight : UInt32} {listener : τ} {s : Buffered ℚ τ}
    (first : setDisplayInfo env mode state true
      { pixels := .constructed clientWidth clientHeight sourceWidth sourceHeight, listener := listener } = .ok () s) :
    Steady env mode s.pixels := by
  have accepted := first_accepted positive first
  have wide := orientedWidth_ne_zero positive state
  have high := orientedHeight_ne_zero positive state
  rw [setDisplayInfo_returned first, reported_constructed, first_exact] at accepted ⊢
  refine ⟨rfl, rfl, ⟨UInt32.pos_iff_ne_zero.mpr wide, UInt32.pos_iff_ne_zero.mpr high⟩, accepted,
    orientedWidth mode state, orientedHeight mode state, ⟨?_, ?_⟩, Or.inl ⟨rfl, rfl⟩, fun _ => ⟨rfl, rfl⟩⟩
  · exact div_mul_cancel₀ _ (toNat_ne_zero wide)
  · exact div_mul_cancel₀ _ (toNat_ne_zero high)

theorem turns_exactly_after_run (even : env.Even) (positive : mode.Positive) {state : Rotation}
    {clientWidth clientHeight sourceWidth sourceHeight : UInt32} {listener : τ} {s : Buffered ℚ τ}
    (first : setDisplayInfo env mode state true
      { pixels := .constructed clientWidth clientHeight sourceWidth sourceHeight, listener := listener } = .ok () s)
    (run : List BufferCall) (keeps : ∀ call ∈ run, call.Keeps mode) :
    TurnsExactly env mode (run.foldl (bufferStep env) s) :=
  (steady_run even positive run keeps (steady_first positive first)).turnsExactly even positive

/-- The desktop is such a listener while the server takes what is not empty. -/
theorem desktop_even {p : Platform} (serves : p.ServesFilled)
    (symmetric : ∀ w h, p.setSizeAccepts w h = p.setSizeAccepts h w) : p.buffer.Even where
  symmetric := symmetric
  returns := fun _ d filled => listener_returns serves filled d

/-- A server that takes what is not empty, and a base class with a bound. -/
def Platform.bounding : Platform :=
  { Platform.serving with setSizeAccepts := fun w h => decide (w ≤ 16384 ∧ h ≤ 16384) }

theorem bounding_even : Platform.bounding.buffer.Even :=
  desktop_even ⟨serving_filled.pixelBuffer, serving_filled.screenLayout⟩ fun _ _ =>
    decide_eq_decide.mpr And.comm

def shownUpright : Desktop := { mLayerId := 0, mInputDevice := .closed, mDisplayMode := ⟨1080, 1920⟩ }

def reportedUpright : Buffered ℚ Desktop :=
  Outcomes.after (setDisplayInfo Platform.bounding.buffer ⟨1080, 1920⟩ .rotation0 true)
    { pixels := .constructed 0 0 0 0, listener := shownUpright }

/-- Also after a window that is too large, and with the display turned. -/
theorem turns_exactly_upright : TurnsExactly Platform.bounding.buffer ⟨1080, 1920⟩
    ([.setWindowSize 540 960, .setDisplayInfo ⟨1080, 1920⟩ .rotation90 false, .setWindowSize 20000 100].foldl
      (bufferStep Platform.bounding.buffer) reportedUpright) :=
  turns_exactly_after_run bounding_even (by decide)
    (show setDisplayInfo Platform.bounding.buffer ⟨1080, 1920⟩ .rotation0 true
      { pixels := .constructed 0 0 0 0, listener := shownUpright } = .ok () reportedUpright from
        Outcomes.ok_of_value (by decide +kernel))
    _ (by simp [BufferCall.Keeps])

end VncFlinger.Display
