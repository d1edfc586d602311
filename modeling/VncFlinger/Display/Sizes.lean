import VncFlinger.Display.Viewport

/-!
# The copies of the buffer's size

The virtual display, the viewport, the pixel buffer and the VNC server each keep a size. Once they
agree, they follow the pixel buffer through any updates and window sizes. A start that turns the
new buffer throws, and the updates after it find a virtual display of no size.
-/

namespace VncFlinger.Display

variable {F : Type} [Floats F] {p : Platform}

/-- Every size outside the pixel buffer is the buffer's. -/
structure SizesAgree (F : Type) [Floats F] (w h : UInt32) (d : Desktop) : Prop where
  display : ∃ vd, d.mVirtualDisplay = some vd ∧ vd.mWidth = w ∧ vd.mHeight = h ∧
    d.mDisplayRect = vd.getDisplayRect F
  server : d.server = .sized w h

/-- The server takes a buffer, and a layout of one screen as large as the buffer, unless it is
empty. -/
structure Platform.ServesFilled (p : Platform) : Prop where
  pixelBuffer : ∀ w h, p.setPixelBufferReturns w h = true ↔ 0 < w ∧ 0 < h
  screenLayout : ∀ w h, p.setScreenLayoutReturns w h = true ↔ 0 < w ∧ 0 < h

/-- `stop`. The buffer it frees is an empty one until the next start. -/
def stop (p : Platform) : DesktopM F Unit := do
  onDesktop (modify fun d => { d with server := {} })
  updatePixels fun _ => .constructed 0 0 0 0
  onDesktop (modify fun d => { d with mVirtualDisplay := none })
  onDesktop (modify fun d => { d with mInputDevice := (Input.stop p.sys d.mInputDevice).2 })
  onDesktop (runJniCallback p)

/-! ### Sessions -/

/-- The desktop, whether it has pixels, and whether the server takes it for started. -/
structure Session (F : Type) where
  buffered : Buffered F Desktop
  allocated : Bool := false
  started : Bool := false

def Session.allocate (s : Session F) (pixels : PixelBuffer F) (device : Input.Device) : Session F :=
  { s with buffered := Display.allocate pixels device s.buffered.listener, allocated := true }

/-- A start that throws closes the connection that asked for it, and the server goes on. -/
def Session.start (p : Platform) (q : Queries) (s : Session F) : Session F :=
  match Display.start p q s.buffered with
  | .ok started b => { s with buffered := b, started := started }
  | .error _ b => { s with buffered := b }

def Session.stop (p : Platform) (s : Session F) : Session F :=
  { buffered := Outcomes.after (Display.stop p) s.buffered, allocated := false, started := false }

/-- `processFrames` updates a desktop that has a virtual display and pixels. -/
def Session.Takes (s : Session F) : DesktopEvent → Prop
  | .update _ => s.buffered.listener.mVirtualDisplay ≠ none ∧ s.allocated = true
  | .resize _ _ => s.allocated = true
  | .props _ => True

instance (s : Session F) : DecidablePred s.Takes
  | .update _ =>
    inferInstanceAs (Decidable (s.buffered.listener.mVirtualDisplay ≠ none ∧ s.allocated = true))
  | .resize _ _ => inferInstanceAs (Decidable (s.allocated = true))
  | .props _ => .isTrue trivial

inductive Operation where
  | start (q : Queries) (device : Input.Device) (clientWidth clientHeight sourceWidth sourceHeight : UInt32)
  | stop
  | desktop (event : DesktopEvent)
  deriving DecidableEq, Repr

def Operation.Positive : Operation → Prop
  | .start q _ _ _ _ _ => q.Positive
  | .desktop (.update q) => q.Positive
  | _ => True

/-- The server starts a desktop that is not started, and stops one that is. An exception that leaves an
update ends the server loop. -/
def operationStep (p : Platform) : Option (Session F) → Operation → Option (Session F)
  | none, _ => none
  | some s, .start q device clientWidth clientHeight sourceWidth sourceHeight =>
    if s.started then some s
    else some ((s.allocate (.constructed clientWidth clientHeight sourceWidth sourceHeight) device).start p q)
  | some s, .stop => if s.started then some (s.stop p) else some s
  | some s, .desktop event =>
    if s.Takes event then (desktopStep p (some s.buffered) event).map fun b => { s with buffered := b }
    else some s

/-- The copies agree after an operation that completes successfully. -/
def AgreeOnSuccess (p : Platform) : Option (Session F) → Operation → Prop
  | some s, .start q device clientWidth clientHeight sourceWidth sourceHeight => s.started = false → ∀ b,
      start p q (s.allocate (.constructed clientWidth clientHeight sourceWidth sourceHeight) device).buffered =
        .ok true b → SizesAgree F b.pixels.width b.pixels.height b.listener
  | some s, .desktop (.update q) => s.Takes (.update q) → ∀ b,
      updateDisplayInfo p q false s.buffered = .ok .noError b →
        SizesAgree F b.pixels.width b.pixels.height b.listener
  | some s, .desktop (.resize reqWidth reqHeight) => s.Takes (.resize reqWidth reqHeight) → ∀ b,
      setScreenLayout p reqWidth reqHeight s.buffered = .ok true b →
        SizesAgree F b.pixels.width b.pixels.height b.listener
  | _, _ => True

/-- A report that is the buffer's own. -/
def Repeats (b : PixelBuffer F) (mode : Size) (state : Rotation) : Prop :=
  isDisplayRotated state = b.mRotated ∧
    orientedWidth mode state = b.mSourceWidth ∧ orientedHeight mode state = b.mSourceHeight

/-- A buffer that an update has nothing new for has a size. -/
def FindsSize : Option (Session F) → Operation → Prop
  | some s, .desktop (.update q) => s.Takes (.update q) → ∀ mode state,
      stored q s.buffered.listener = .both mode state → Repeats s.buffered.pixels mode state →
        ¬(s.buffered.pixels.width = 0 ∧ s.buffered.pixels.height = 0)
  | _, _ => True

/-! ### The invariant -/

/-- The copies agree on a size that the server takes. -/
structure Served (F : Type) [Floats F] (w h : UInt32) (d : Desktop) : Prop where
  agree : SizesAgree F w h d
  filled : 0 < w ∧ 0 < h

/-- The copies agree, or the buffer has no size yet and the server none that is empty. -/
def Settled (b : Buffered F Desktop) : Prop :=
  Served F b.pixels.width b.pixels.height b.listener ∨
    Sizeless b.pixels ∧ b.listener.server.pixelBuffer ≠ some (0, 0)

theorem Settled.server {b : Buffered F Desktop} (settled : Settled b) :
    b.listener.server.pixelBuffer ≠ some (0, 0) := by
  rcases settled with ⟨agree, filled⟩ | ⟨_, server⟩
  · rw [agree.server]
    intro empty
    have width : b.pixels.width = 0 := congrArg Prod.fst (Option.some.inj empty)
    exact absurd filled.1 (by rw [width]; decide)
  · exact server

/-- What else the listener keeps does not matter to the copies. -/
theorem SizesAgree.of_same {w h : UInt32} {d d' : Desktop} (agree : SizesAgree F w h d)
    (display : d'.mVirtualDisplay = d.mVirtualDisplay) (rect : d'.mDisplayRect = d.mDisplayRect)
    (server : d'.server = d.server) : SizesAgree F w h d' where
  display := by rw [display, rect]; exact agree.display
  server := by rw [server]; exact agree.server

theorem Settled.of_same {b b' : Buffered F Desktop} (settled : Settled b) (pixels : b'.pixels = b.pixels)
    (display : b'.listener.mVirtualDisplay = b.listener.mVirtualDisplay)
    (rect : b'.listener.mDisplayRect = b.listener.mDisplayRect)
    (server : b'.listener.server = b.listener.server) : Settled b' := by
  unfold Settled
  rw [pixels, server]
  rcases settled with ⟨agree, filled⟩ | sizeless
  · exact Or.inl ⟨agree.of_same display rect server, filled⟩
  · exact Or.inr sizeless

/-! ### The listener -/

theorem answers_served (serves : p.ServesFilled) : Answers (p.buffer : BufferEnv F Desktop) (Served F) := by
  intro b d d' returned
  have run : onBufferDimensionsChanged p b b.width b.height d = .ok () d' := returned
  rw [listener_apply] at run
  split_ifs at run with taken
  cases run
  have shown := (sameGeometry_callback p { d with mVirtualDisplay := some (newDisplay b d) }).display
  exact ⟨⟨⟨newDisplay b d, shown, rfl, rfl, rfl⟩, rfl⟩, (serves.pixelBuffer _ _).mp taken.1⟩

theorem callback_server (d : Desktop) : (Outcomes.after (runJniCallback p) d).server = d.server := by
  rcases callback_cases p d with run | ⟨props, _, run⟩
  · rw [run]
  · rw [run]
    rfl

/-- The desktop returns from being told a size that is not empty. -/
theorem listener_returns (serves : p.ServesFilled) {b : PixelBuffer F} (filled : 0 < b.width ∧ 0 < b.height)
    (d : Desktop) : ∃ d', p.buffer.onBufferDimensionsChanged b b.width b.height d = .ok () d' := by
  have run := listener_apply (p := p) b b.width b.height d
  rw [if_pos ⟨(serves.pixelBuffer _ _).mpr filled, (serves.screenLayout _ _).mpr filled⟩] at run
  exact ⟨_, run⟩

/-- A buffer that the server refuses leaves it with what it has. -/
theorem told_refused {b : PixelBuffer F} (refused : ¬p.setPixelBufferReturns b.width b.height = true)
    (d : Desktop) : (p.buffer.told b d).server = d.server := by
  have run := onBufferDimensionsChanged_eq p b b.width b.height d
  have first := setPixelBuffer_apply (p := p) b.width b.height (rebuilt p b d)
  rw [if_neg refused] at first
  rw [Outcomes.bind_error first] at run
  show (Outcomes.after (onBufferDimensionsChanged p b b.width b.height) d).server = d.server
  rw [Outcomes.after_error run]
  exact callback_server _

theorem notify_refused {s : Buffered F Desktop}
    (refused : ¬p.setPixelBufferReturns s.pixels.width s.pixels.height = true) :
    ∃ s', notify p.buffer s = .error () s' ∧ s'.pixels = s.pixels ∧ s'.listener.server = s.listener.server := by
  have threw : p.buffer.onBufferDimensionsChanged s.pixels s.pixels.width s.pixels.height s.listener =
      .error () (p.buffer.told s.pixels s.listener) :=
    (listener_apply s.pixels s.pixels.width s.pixels.height s.listener).trans (if_neg fun taken => refused taken.1)
  rw [notify, threw]
  exact ⟨_, rfl, rfl, told_refused refused s.listener⟩

/-! ### A report -/

/-- What a report does to a buffer without a size. -/
inductive FirstReport (p : Platform) (mode : Size) (state : Rotation) (force : Bool) (s : Buffered F Desktop) : Prop
  | threw {s' : Buffered F Desktop} (error : setDisplayInfo p.buffer mode state force s = .error () s')
      (turns : isDisplayRotated state ≠ s.pixels.mRotated) (sizeless : Sizeless s'.pixels)
      (server : s'.listener.server = s.listener.server)
  | repeated (ok : setDisplayInfo p.buffer mode state force s = .ok () s) (repeats : Repeats s.pixels mode state)
      (unforced : force = false)
  | sized {s' : Buffered F Desktop} (ok : setDisplayInfo p.buffer mode state force s = .ok () s')
      (new : ¬(Repeats s.pixels mode state ∧ force = false))
      (served : Served F s'.pixels.width s'.pixels.height s'.listener)

section Operations

variable (sizes : ∀ w h, p.setSizeAccepts w h = true) (serves : p.ServesFilled)
include sizes serves

theorem firstReport {mode : Size} (positive : mode.Positive) (state : Rotation) (force : Bool)
    {s : Buffered F Desktop} (sizeless : Sizeless s.pixels) : FirstReport p mode state force s := by
  by_cases same : isDisplayRotated state = s.pixels.mRotated
  · have run : setDisplayInfo p.buffer mode state force s =
        setSource p.buffer (orientedWidth mode state) (orientedHeight mode state) force s := by
      rw [setDisplayInfo_eq, Outcomes.bind_ok (setBufferRotation_same p.buffer same)]
    by_cases known : orientedWidth mode state = s.pixels.mSourceWidth ∧
        orientedHeight mode state = s.pixels.mSourceHeight ∧ force = false
    · rw [setSource_apply, if_pos known] at run
      exact .repeated run ⟨same, known.1, known.2.1⟩ known.2.2
    · have wide := orientedWidth_ne_zero positive state
      have high := orientedHeight_ne_zero positive state
      have first := setSource_sizeless p.buffer sizeless known wide
      have filled : 0 < unscaled F (orientedWidth mode state) ∧ 0 < unscaled F (orientedHeight mode state) :=
        ⟨UInt32.pos_iff_ne_zero.mpr (Floats.unscaled_ne_zero wide),
          UInt32.pos_iff_ne_zero.mpr (Floats.unscaled_ne_zero high)⟩
      obtain ⟨_, s', told⟩ := (notify_returns_iff p.buffer (s.with (.first s.pixels.mRotated
        (orientedWidth mode state) (orientedHeight mode state)))).mpr (listener_returns serves filled s.listener)
      have ok := (run.trans first).trans ((if_pos (sizes _ _)).trans told)
      refine .sized ok (fun repeats => known ⟨repeats.1.2.1, repeats.1.2.2, repeats.2⟩) ?_
      refine (fresh_setDisplayInfo (answers_served serves) ok).resolve_right fun unchanged => ?_
      have width : s'.pixels.width = unscaled F (orientedWidth mode state) := by rw [notify_returned told]; rfl
      exact Floats.unscaled_ne_zero wide (width.symm.trans (unchanged.1.1.trans sizeless.width))
  · -- the turn announces the empty buffer
    have accepted := setBufferRotation_accepted p.buffer same (sizes _ _)
    have turned := sizeless.turned (isDisplayRotated state)
    have refused : ¬p.setPixelBufferReturns (s.pixels.turned (isDisplayRotated state)).width
        (s.pixels.turned (isDisplayRotated state)).height = true := by
      rw [serves.pixelBuffer, turned.width]
      exact fun filled => absurd filled.1 (by decide)
    obtain ⟨s', threw, pixels, server⟩ := notify_refused (s := s.with (s.pixels.turned _)) refused
    have error : setDisplayInfo p.buffer mode state force s = .error () s' := by
      rw [setDisplayInfo_eq]
      exact Outcomes.bind_error (accepted.trans threw)
    exact .threw error same (by rw [pixels]; exact turned) server

/-! ### The operations -/

/-- A start gives the new buffer a size, or leaves it without one. -/
theorem start_settled {q : Queries} (positive : q.Positive) {s : Buffered F Desktop} (sizeless : Sizeless s.pixels)
    (server : s.listener.server.pixelBuffer ≠ some (0, 0)) :
    Settled (Outcomes.after (start p q) s) ∧
      ∀ s', start p q s = .ok true s' → SizesAgree F s'.pixels.width s'.pixels.height s'.listener := by
  have unsized : ∀ s' : Buffered F Desktop, start p q s = .ok false s' → s'.pixels = s.pixels →
      s'.listener.server = s.listener.server → Settled (Outcomes.after (start p q) s) ∧
        ∀ s', start p q s = .ok true s' → SizesAgree F s'.pixels.width s'.pixels.height s'.listener := by
    intro s' failed pixels kept
    rw [failed, Outcomes.after_ok failed, Settled, pixels, kept]
    exact ⟨Or.inr ⟨sizeless, server⟩, fun _ ok => nomatch ok⟩
  cases outcome : stored q s.listener with
  | nothing =>
    obtain ⟨status, failed, run⟩ := updateDisplayInfo_nothing (p := p) true outcome
    refine unsized s ?_ rfl rfl
    rw [start, Outcomes.bind_ok run]
    cases status <;> first | rfl | exact absurd rfl failed
  | modeOnly mode =>
    have run := updateDisplayInfo_modeOnly (p := p) true outcome
    refine unsized (s.showing mode s.listener.mDisplayState) ?_ rfl rfl
    rw [start, Outcomes.bind_ok run]
    rfl
  | both mode state =>
    have update := updateDisplayInfo_both (p := p) true outcome
    cases firstReport sizes serves (stored_positive positive outcome) state true
        (s := s.showing mode state) sizeless with
    | threw error turns sizeless' server' =>
      rw [Outcomes.bind_error error] at update
      have threw : start p q s = .error () _ := Outcomes.bind_error update
      rw [threw, Outcomes.after_error threw, Settled, server']
      exact ⟨Or.inr ⟨sizeless', server⟩, fun _ ok => nomatch ok⟩
    | repeated ok repeats unforced => cases unforced
    | @sized s' ok new served =>
      rw [Outcomes.bind_ok ok] at update
      have given := setPixelBuffer_apply (p := p) s'.pixels.width s'.pixels.height s'.listener
      rw [if_pos ((serves.pixelBuffer _ _).mpr served.filled)] at given
      have taken : onDesktop (setPixelBuffer p s'.pixels.width s'.pixels.height) s' =
          .ok () { s' with listener := s'.listener.served (.sized s'.pixels.width s'.pixels.height) } := by
        rw [onDesktop, given]
      have started : start p q s =
          .ok true { s' with listener := s'.listener.served (.sized s'.pixels.width s'.pixels.height) } := by
        rw [start, Outcomes.bind_ok update]
        simp only
        rw [Outcomes.bind_ok (getPixels_apply s'), Outcomes.bind_ok taken]
        rfl
      have agree : SizesAgree F s'.pixels.width s'.pixels.height
          (s'.listener.served (.sized s'.pixels.width s'.pixels.height)) := ⟨served.agree.display, rfl⟩
      rw [started, Outcomes.after_ok started]
      refine ⟨Or.inl ⟨agree, served.filled⟩, fun s'' ok => ?_⟩
      cases ok
      exact agree

/-- An update that returns leaves the buffer settled. It leaves the copies agreeing too, unless it repeats
what a buffer without a size has. -/
theorem update_settled {q : Queries} (positive : q.Positive) {s : Buffered F Desktop} (settled : Settled s) :
    (∀ status s', updateDisplayInfo p q false s = .ok status s' → Settled s') ∧
      ((∀ s', updateDisplayInfo p q false s = .ok .noError s' →
          SizesAgree F s'.pixels.width s'.pixels.height s'.listener) ↔
        ∀ mode state, stored q s.listener = .both mode state → Repeats s.pixels mode state →
          ¬(s.pixels.width = 0 ∧ s.pixels.height = 0)) := by
  cases outcome : stored q s.listener with
  | nothing =>
    obtain ⟨status, failed, run⟩ := updateDisplayInfo_nothing (p := p) false outcome
    rw [run]
    refine ⟨fun _ s' ok => ?_, iff_of_true (fun s' ok => ?_) fun mode state both => nomatch both⟩
    · cases ok
      exact settled
    · cases ok
      exact absurd rfl failed
  | modeOnly mode =>
    rw [updateDisplayInfo_modeOnly (p := p) false outcome]
    refine ⟨fun _ s' ok => ?_, iff_of_true (fun s' ok => nomatch ok) fun mode state both => nomatch both⟩
    cases ok
    exact settled.of_same rfl rfl rfl rfl
  | both mode state =>
    have run := updateDisplayInfo_both (p := p) false outcome
    rcases settled with served | ⟨sizeless, server⟩
    · have kept : ∀ status s', updateDisplayInfo p q false s = .ok status s' →
          Served F s'.pixels.width s'.pixels.height s'.listener := by
        intro status s' ok
        rw [run] at ok
        obtain ⟨_, _, info, final⟩ := Outcomes.bind_returns ok
        cases final
        have showing : Served F s.pixels.width s.pixels.height (s.showing mode state).listener :=
          ⟨served.agree.of_same rfl rfl rfl, served.filled⟩
        exact (fresh_setDisplayInfo (answers_served serves) info).holds showing
      refine ⟨fun status s' ok => Or.inl (kept status s' ok), ?_⟩
      refine iff_of_true (fun s' ok => (kept _ s' ok).agree) ?_
      rintro _ _ ⟨⟩ _ ⟨width, _⟩
      exact absurd served.filled.1 (by rw [width]; decide)
    · cases firstReport sizes serves (stored_positive positive outcome) state false
          (s := s.showing mode state) sizeless with
      | threw error turns sizeless' server' =>
        rw [Outcomes.bind_error error] at run
        rw [run]
        refine ⟨fun _ s' ok => (nomatch ok), iff_of_true (fun s' ok => nomatch ok) ?_⟩
        rintro _ _ ⟨⟩ repeats
        exact absurd repeats.1 turns
      | repeated ok repeats unforced =>
        rw [Outcomes.bind_ok ok] at run
        rw [run]
        refine ⟨fun _ s' ok => ?_, iff_of_false (fun agrees => ?_) fun sized => ?_⟩
        · cases ok
          exact Or.inr ⟨sizeless, server⟩
        · have agree := (agrees _ rfl).server
          have given : s.listener.server = .sized s.pixels.width s.pixels.height := agree
          rw [sizeless.width, sizeless.height] at given
          rw [given] at server
          exact server rfl
        · exact sized mode state rfl repeats ⟨sizeless.width, sizeless.height⟩
      | sized ok new served =>
        rw [Outcomes.bind_ok ok] at run
        rw [run]
        refine ⟨fun _ s' ok => ?_, iff_of_true (fun s' ok => ?_) ?_⟩
        · cases ok
          exact Or.inl served
        · cases ok
          exact served.agree
        · rintro _ _ ⟨⟩ repeats
          exact absurd ⟨repeats, rfl⟩ new

theorem setWindowSize_returns {width height : UInt32} (filled : 0 < width ∧ 0 < height) (s : Buffered F Desktop) :
    Outcomes.Returns (setWindowSize p.buffer width height) s := by
  unfold Outcomes.Returns
  rw [setWindowSize_apply, followClient_apply]
  simp only
  split_ifs with known same accepted
  · exact ⟨_, _, rfl⟩
  · exact ⟨_, _, rfl⟩
  · exact (notify_returns_iff p.buffer _).mpr (listener_returns serves filled s.listener)
  · exact absurd (sizes _ _) accepted

theorem setWindowSize_settled {width height : UInt32} (filled : 0 < width ∧ 0 < height) {s : Buffered F Desktop}
    (settled : Settled s) : ∃ s', setWindowSize p.buffer width height s = .ok () s' ∧ Settled s' := by
  obtain ⟨_, s', ok⟩ := setWindowSize_returns sizes serves filled s
  refine ⟨s', ok, ?_⟩
  have fresh := fresh_of_ends (answers_served serves) (ends_setWindowSize p.buffer width height s) ok
  rcases settled with served | ⟨sizeless, server⟩
  · exact Or.inl (fresh.holds served)
  · refine fresh.elim Or.inl fun ⟨size, listener⟩ => ?_
    -- a buffer without a size is left alone only for the client size it has
    have pixels := setWindowSize_returned ok
    rw [PixelBuffer.asked] at pixels
    split_ifs at pixels
    · rw [Settled, pixels, listener]
      exact Or.inr ⟨sizeless, server⟩
    · have width' : s'.pixels.width = width := by rw [pixels]; rfl
      have empty := width'.symm.trans (size.1.trans sizeless.width)
      exact absurd filled.1 (by rw [empty]; decide)

omit sizes in
/-- The last part of `setScreenLayout` says again what the server knows of a size it takes. -/
theorem layout_agrees {s : Buffered F Desktop} (settled : Settled s) :
    Settled (Outcomes.after (onDesktop (serverSetScreenLayout p s.pixels.width s.pixels.height)) s) ∧
      ∀ u s', onDesktop (serverSetScreenLayout p s.pixels.width s.pixels.height) s = .ok u s' →
        SizesAgree F s'.pixels.width s'.pixels.height s'.listener := by
  have given := serverSetScreenLayout_apply (p := p) s.pixels.width s.pixels.height s.listener
  by_cases taken : p.setScreenLayoutReturns s.pixels.width s.pixels.height = true
  · have served : Served F s.pixels.width s.pixels.height s.listener := by
      refine settled.resolve_right fun sizeless => ?_
      have filled := ((serves.screenLayout _ _).mp taken).1
      exact absurd filled (by rw [sizeless.1.width]; decide)
    have same : s.listener.served { s.listener.server with
        screenLayout := some (s.pixels.width, s.pixels.height) } = s.listener := by
      have server := served.agree.server
      rw [Desktop.served, server, Server.sized, ← Server.sized, ← server]
    rw [if_pos taken, same] at given
    have run : onDesktop (serverSetScreenLayout p s.pixels.width s.pixels.height) s = .ok () s := by
      rw [onDesktop, given]
    rw [Outcomes.after_ok run]
    refine ⟨settled, fun u s' ok => ?_⟩
    rw [run] at ok
    cases ok
    exact served.agree
  · rw [if_neg taken] at given
    have run : onDesktop (serverSetScreenLayout p s.pixels.width s.pixels.height) s = .error () s := by
      rw [onDesktop, given]
    rw [Outcomes.after_error run]
    refine ⟨settled, fun u s' ok => ?_⟩
    rw [run] at ok
    cases ok

theorem resize_settled {s : Buffered F Desktop} (settled : Settled s) (reqWidth reqHeight : Int32) :
    Settled (Outcomes.after (setScreenLayout p reqWidth reqHeight) s) ∧
      ∀ s', setScreenLayout p reqWidth reqHeight s = .ok true s' →
        SizesAgree F s'.pixels.width s'.pixels.height s'.listener := by
  have run := setScreenLayout_apply (p := p) reqWidth reqHeight s
  split_ifs at run with virtual shown filled
  · rw [Outcomes.after_ok run, run]
    refine ⟨?_, fun s' ok => by cases ok⟩
    exact settled.of_same rfl (sameGeometry_callback p s.listener).display (callback_rect s.listener)
      (callback_server s.listener)
  · rw [Outcomes.after_ok run, run]
    exact ⟨settled, fun s' ok => by cases ok⟩
  · have positive : 0 < reqWidth.toUInt32 ∧ 0 < reqHeight.toUInt32 :=
      ⟨UInt32.pos_iff_ne_zero.mpr (toUInt32_ne_zero filled.1),
        UInt32.pos_iff_ne_zero.mpr (toUInt32_ne_zero filled.2)⟩
    obtain ⟨middle, window, kept⟩ := setWindowSize_settled sizes serves positive settled
    obtain ⟨kept, agrees⟩ := layout_agrees serves kept
    rw [Outcomes.bind_ok window, Outcomes.bind_ok (getPixels_apply middle)] at run
    rw [Outcomes.after_congr run, run]
    cases given : onDesktop (serverSetScreenLayout p middle.pixels.width middle.pixels.height) middle with
    | ok u s' =>
      rw [Outcomes.after_ok given] at kept
      rw [Outcomes.after_bind_ok given, Outcomes.bind_ok given]
      refine ⟨kept, fun s'' ok => ?_⟩
      cases ok
      exact agrees u s' given
    | error u s' =>
      rw [Outcomes.after_error given] at kept
      rw [Outcomes.after_bind_error given, Outcomes.bind_error given]
      exact ⟨kept, fun s'' ok => by cases ok⟩
  · rw [Outcomes.after_ok run, run]
    exact ⟨settled, fun s' ok => by cases ok⟩

end Operations

theorem stop_settled (p : Platform) (b : Buffered F Desktop) : Settled (Outcomes.after (stop p) b) := by
  refine Or.inr ⟨sizeless_constructed 0 0 0 0, ?_⟩
  have server := callback_server (p := p) { b.listener with
    server := {}, mVirtualDisplay := none, mInputDevice := (Input.stop p.sys b.listener.mInputDevice).2 }
  show (Outcomes.after (runJniCallback p) _).server.pixelBuffer ≠ some (0, 0)
  rw [server]
  exact fun none => nomatch none

/-! ### Runs -/

def SessionSettled (s : Option (Session F)) : Prop := ∀ running ∈ s, Settled running.buffered

theorem start_buffered (p : Platform) (q : Queries) (s : Session F) :
    (s.start p q).buffered = Outcomes.after (start p q) s.buffered := by
  unfold Session.start
  cases result : start p q s.buffered with
  | ok started b => rw [Outcomes.after_ok result]
  | error e b => rw [Outcomes.after_error result]

theorem agree_on_success_iff (sizes : ∀ w h, p.setSizeAccepts w h = true) (serves : p.ServesFilled)
    {state : Option (Session F)} (settled : SessionSettled state) {op : Operation} (positive : op.Positive) :
    AgreeOnSuccess p state op ↔ FindsSize state op := by
  cases state with
  | none => exact Iff.rfl
  | some s =>
    have settled := settled s rfl
    cases op with
    | start q device clientWidth clientHeight sourceWidth sourceHeight =>
      refine iff_of_true (fun _ b started => ?_) trivial
      have sizeless := sizeless_constructed (F := F) clientWidth clientHeight sourceWidth sourceHeight
      exact (start_settled (s := allocate _ device s.buffered.listener) sizes serves positive sizeless
        settled.server).2 b started
    | stop => exact Iff.rfl
    | desktop event =>
      cases event with
      | update q => exact imp_congr_right fun _ => (update_settled sizes serves positive settled).2
      | resize reqWidth reqHeight =>
        exact iff_of_true (fun _ => (resize_settled sizes serves settled reqWidth reqHeight).2) trivial
      | props props => exact Iff.rfl

theorem settled_step (sizes : ∀ w h, p.setSizeAccepts w h = true) (serves : p.ServesFilled)
    {state : Option (Session F)} (settled : SessionSettled state) {op : Operation} (positive : op.Positive) :
    SessionSettled (operationStep p state op) := by
  intro running member
  cases state with
  | none => cases member
  | some s =>
    have settled := settled s rfl
    cases op with
    | start q device clientWidth clientHeight sourceWidth sourceHeight =>
      rw [operationStep] at member
      split at member
      · cases member
        exact settled
      · cases member
        rw [start_buffered]
        have sizeless := sizeless_constructed (F := F) clientWidth clientHeight sourceWidth sourceHeight
        exact (start_settled (s := allocate _ device s.buffered.listener) sizes serves positive sizeless
          settled.server).1
    | stop =>
      rw [operationStep] at member
      split at member
      · cases member
        exact stop_settled p s.buffered
      · cases member
        exact settled
    | desktop event =>
      rw [operationStep] at member
      split at member
      · obtain ⟨b, left, rfl⟩ := Option.map_eq_some_iff.mp member
        obtain ⟨before, here, left⟩ := desktopStep_left left
        cases here
        cases left with
        | update result => exact (update_settled sizes serves positive settled).1 _ _ result
        | resize reqWidth reqHeight => exact (resize_settled sizes serves settled reqWidth reqHeight).1
        | props props => exact settled.of_same rfl rfl rfl rfl
      · cases member
        exact settled

/-- The desktop before its first start. -/
def unstarted (d : Desktop) : Session F := { buffered := { pixels := .constructed 0 0 0 0, listener := d } }

/-- Through any starts, stops, updates and window sizes, the copies agree after each of these that
succeeds exactly when no update leaves a buffer without a size as it is. -/
theorem sizes_agree_along_run (sizes : ∀ w h, p.setSizeAccepts w h = true) (serves : p.ServesFilled)
    {d : Desktop} (constructed : d.server = {}) (run : List Operation) (positive : ∀ op ∈ run, op.Positive) :
    Runs.Along (operationStep p) (AgreeOnSuccess p) (some (unstarted d : Session F)) run ↔
      Runs.Along (operationStep p) FindsSize (some (unstarted d : Session F)) run := by
  refine Runs.along_iff (I := SessionSettled) ?_ ?_ ?_
  · intro running same
    cases same
    refine Or.inr ⟨sizeless_constructed 0 0 0 0, ?_⟩
    rw [unstarted, constructed]
    exact fun none => nomatch none
  · exact fun state op member settled => agree_on_success_iff sizes serves settled (positive op member)
  · exact fun state op member settled _ => settled_step sizes serves settled (positive op member)

/-- The server refuses an empty buffer, and everything else outside works. -/
def Platform.serving : Platform :=
  { Platform.calm with
    setPixelBufferReturns := fun w h => decide (0 < w ∧ 0 < h)
    setScreenLayoutReturns := fun w h => decide (0 < w ∧ 0 < h) }

theorem serving_filled : Platform.serving.ServesFilled :=
  ⟨fun _ _ => decide_eq_true_iff, fun _ _ => decide_eq_true_iff⟩

def mirroring : Session Single := unstarted { mLayerId := 0, mInputDevice := .closed }

theorem sizes_agree_restarted :
    let run := [.start (portrait .rotation0) .closed 0 0 0 0, .desktop (.resize 640 480),
      .desktop (.update (portrait .rotation90)), .stop, .start (portrait .rotation180) .closed 0 0 0 0]
    Runs.Along (operationStep .serving) (AgreeOnSuccess .serving) (some mirroring) run ↔
      Runs.Along (operationStep .serving) FindsSize (some mirroring) run := by
  refine sizes_agree_along_run (fun _ _ => rfl) serving_filled rfl _ ?_
  have reports := portrait_positive
  simp [Operation.Positive, reports]

/-- A display that is turned when it starts, and a new buffer whose memory has its source size. -/
def sideways : Session Single :=
  (mirroring.allocate (.constructed 0 0 1920 1080) .closed).start .serving (portrait .rotation90)

/-- The start throws when it announces the empty buffer. The update after it succeeds, and the server has
been given nothing. -/
theorem update_without_size :
    ¬Runs.Along (operationStep .serving) (AgreeOnSuccess .serving) (some mirroring)
      [.start (portrait .rotation90) .closed 0 0 1920 1080, .desktop (.update (portrait .rotation90))] := by
  have updated : Outcomes.value (updateDisplayInfo .serving (portrait .rotation90) false) sideways.buffered =
      some .noError := by
    decide +kernel
  have server : (Outcomes.after (updateDisplayInfo .serving (portrait .rotation90) false)
      sideways.buffered).listener.server = {} := by
    decide +kernel
  rintro ⟨_, agrees, _⟩
  have agree := agrees (show sideways.Takes (.update (portrait .rotation90)) by decide +kernel) _
    (Outcomes.ok_of_value updated)
  exact absurd (server.symm.trans agree.server) (fun given => nomatch given)

end VncFlinger.Display
