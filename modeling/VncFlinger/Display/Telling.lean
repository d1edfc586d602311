import VncFlinger.Display.Consumers
import VncFlinger.Display.Endings

/-!
# The desktop's operations, inverted

What the desktop is left with when it is told a size, and what an operation that returned has done.
-/

namespace VncFlinger.Display

variable {F : Type} [Floats F] {p : Platform}

def Desktop.served (d : Desktop) (server : Server) : Desktop := { d with server := server }

/-- The server has been given this size by both calls. -/
def Server.sized (w h : UInt32) : Server := ⟨some (w, h), some (w, h)⟩

theorem setPixelBuffer_apply (w h : UInt32) (d : Desktop) : setPixelBuffer p w h d =
    if p.setPixelBufferReturns w h then .ok () (d.served (.sized w h)) else .error () d := by
  unfold setPixelBuffer
  split <;> rfl

theorem serverSetScreenLayout_apply (w h : UInt32) (d : Desktop) : serverSetScreenLayout p w h d =
    if p.setScreenLayoutReturns w h then .ok () (d.served { d.server with screenLayout := some (w, h) })
    else .error () d := by
  unfold serverSetScreenLayout
  split <;> rfl

omit [Floats F] in
theorem layout_given {s : Buffered F Desktop} (taken : p.setScreenLayoutReturns s.pixels.width s.pixels.height = true) :
    onDesktop (serverSetScreenLayout p s.pixels.width s.pixels.height) s =
      .ok () { s with listener := s.listener.served { s.listener.server with
        screenLayout := some (s.pixels.width, s.pixels.height) } } := by
  rw [onDesktop, serverSetScreenLayout_apply, if_pos taken]

/-! ### The listener -/

theorem told_served (pixels : PixelBuffer F) (d : Desktop) :
    ∃ server, p.buffer.told pixels d = (rebuilt p pixels d).served server := by
  have run := onBufferDimensionsChanged_eq p pixels pixels.width pixels.height d
  rw [BufferEnv.told, Platform.buffer, Outcomes.after_congr run]
  have first := setPixelBuffer_apply (p := p) pixels.width pixels.height (rebuilt p pixels d)
  split_ifs at first
  · have second := serverSetScreenLayout_apply (p := p) pixels.width pixels.height
      ((rebuilt p pixels d).served (.sized pixels.width pixels.height))
    rw [Outcomes.after_bind_ok first]
    split_ifs at second
    · rw [Outcomes.after_ok second]
      exact ⟨_, rfl⟩
    · rw [Outcomes.after_error second]
      exact ⟨_, rfl⟩
  · rw [Outcomes.after_bind_error first]
    exact ⟨(rebuilt p pixels d).server, rfl⟩

theorem listener_apply (pixels : PixelBuffer F) (w h : UInt32) (d : Desktop) :
    onBufferDimensionsChanged p pixels w h d =
      if p.setPixelBufferReturns pixels.width pixels.height ∧ p.setScreenLayoutReturns pixels.width pixels.height then
        .ok () ((rebuilt p pixels d).served (.sized pixels.width pixels.height))
      else .error () (p.buffer.told pixels d) := by
  have run := onBufferDimensionsChanged_eq p pixels w h d
  have first := setPixelBuffer_apply (p := p) pixels.width pixels.height (rebuilt p pixels d)
  have second := serverSetScreenLayout_apply (p := p) pixels.width pixels.height
    ((rebuilt p pixels d).served (.sized pixels.width pixels.height))
  have result : p.buffer.told pixels d = Outcomes.after (onBufferDimensionsChanged p pixels w h) d := rfl
  rw [result]
  split_ifs with takes
  · rw [if_pos takes.1] at first
    rw [if_pos takes.2] at second
    rw [run, Outcomes.bind_ok first, second]
    rfl
  · by_cases pixelBuffer : p.setPixelBufferReturns pixels.width pixels.height = true
    · rw [if_pos pixelBuffer] at first
      rw [if_neg fun layout => takes ⟨pixelBuffer, layout⟩] at second
      rw [Outcomes.bind_ok first, second] at run
      rw [run, Outcomes.after_error run]
    · rw [if_neg pixelBuffer] at first
      rw [Outcomes.bind_error first] at run
      rw [run, Outcomes.after_error run]

/-! ### An update -/

/-- The three ways an update returns. -/
inductive Updated (p : Platform) (q : Queries) (force : Bool) (s s' : Buffered F Desktop) : Prop
  | nothing (same : s' = s)
  | modeOnly {mode : Size} (only : stored q s.listener = .modeOnly mode)
      (shown : s' = s.showing mode s.listener.mDisplayState)
  | both {mode : Size} {state : Rotation} (both : stored q s.listener = .both mode state)
      (ok : setDisplayInfo p.buffer mode state force (s.showing mode state) = .ok () s')

theorem update_returned {q : Queries} {force : Bool} {s s' : Buffered F Desktop} {status : UpdateStatus}
    (ok : updateDisplayInfo p q force s = .ok status s') : Updated p q force s s' := by
  cases outcome : stored q s.listener with
  | nothing =>
    obtain ⟨_, _, run⟩ := updateDisplayInfo_nothing (p := p) force outcome
    rw [run] at ok
    cases ok
    exact .nothing rfl
  | modeOnly mode =>
    rw [updateDisplayInfo_modeOnly force outcome] at ok
    cases ok
    exact .modeOnly outcome rfl
  | both mode state =>
    rw [updateDisplayInfo_both force outcome] at ok
    obtain ⟨_, _, info, final⟩ := Outcomes.bind_returns ok
    cases final
    exact .both outcome info

theorem stored_modeOnly_positive {q : Queries} (positive : q.Positive) {d : Desktop} {mode : Size}
    (only : stored q d = .modeOnly mode) : mode.Positive := by
  unfold stored at only
  split_ifs at only
  obtain ⟨token, active, orientation⟩ := q
  cases token <;> cases active <;> cases orientation <;> cases only
  exact positive _ rfl

/-! ### The start -/

/-- A start that succeeds has reported a geometry and given the buffer to the server. -/
theorem start_returned {q : Queries} {s s' : Buffered F Desktop} (ok : start p q s = .ok true s') :
    ∃ mode state middle, stored q s.listener = .both mode state ∧
      setDisplayInfo p.buffer mode state true (s.showing mode state) = .ok () middle ∧
      s' = { middle with
        listener := middle.listener.served (.sized middle.pixels.width middle.pixels.height) } := by
  obtain ⟨status, middle, updated, rest⟩ := Outcomes.bind_returns ok
  cases outcome : stored q s.listener with
  | nothing =>
    obtain ⟨status', failed, run⟩ := updateDisplayInfo_nothing (p := p) true outcome
    rw [run] at updated
    cases updated
    cases status <;> first | exact absurd rfl failed | cases rest
  | modeOnly mode =>
    rw [updateDisplayInfo_modeOnly true outcome] at updated
    cases updated
    cases rest
  | both mode state =>
    rw [updateDisplayInfo_both true outcome] at updated
    obtain ⟨_, _, info, final⟩ := Outcomes.bind_returns updated
    cases final
    refine ⟨mode, state, middle, rfl, info, ?_⟩
    obtain ⟨b, _, got, rest⟩ := Outcomes.bind_returns rest
    cases got
    obtain ⟨_, _, taken, done⟩ := Outcomes.bind_returns rest
    rw [onDesktop, setPixelBuffer_apply] at taken
    split_ifs at taken
    cases taken
    cases done
    rfl

/-- The report of a start decides on everything the new buffer has. -/
theorem start_reported {mode : Size} {state : Rotation} {middle : Buffered F Desktop} {d : Desktop}
    {clientWidth clientHeight sourceWidth sourceHeight : UInt32} {device : Input.Device} {u : Unit}
    (info : setDisplayInfo p.buffer mode state true
      ((allocate (.constructed clientWidth clientHeight sourceWidth sourceHeight) device d).showing mode state) =
        .ok u middle) :
    middle.pixels =
      .first (isDisplayRotated state) (orientedWidth mode state) (orientedHeight mode state) := by
  rw [setDisplayInfo_returned info]
  exact reported_constructed clientWidth clientHeight sourceWidth sourceHeight _ _ _

/-! ### A resize -/

theorem setScreenLayout_apply (reqWidth reqHeight : Int32) (s : Buffered F Desktop) :
    setScreenLayout p reqWidth reqHeight s =
      if s.listener.mLayerId < 0 then
        .ok false { s with listener := Outcomes.after (runJniCallback p) s.listener }
      else if reqWidth = s.listener.mDisplayRect.getWidth ∧ reqHeight = s.listener.mDisplayRect.getHeight then
        .ok false s
      else if 0 < reqWidth ∧ 0 < reqHeight then
        (do
          setWindowSize p.buffer reqWidth.toUInt32 reqHeight.toUInt32
          let b ← getPixels
          onDesktop (serverSetScreenLayout p b.width b.height)
          return true : DesktopM F Bool) s
      else .ok false s := by
  rw [setScreenLayout, Outcomes.bind_ok (Outcomes.get_apply s)]
  split_ifs <;> rfl

/-- A window of a size the server is then told, whatever became of the buffer. -/
theorem layout_after (reqWidth reqHeight : UInt32) (s : Buffered F Desktop) :
    ∃ server, Outcomes.after (do
        setWindowSize p.buffer reqWidth reqHeight
        let b ← getPixels
        onDesktop (serverSetScreenLayout p b.width b.height)
        return true : DesktopM F Bool) s =
      let windowed := Outcomes.after (setWindowSize p.buffer reqWidth reqHeight) s
      { windowed with listener := windowed.listener.served server } := by
  cases result : setWindowSize p.buffer reqWidth reqHeight s with
  | ok u s' =>
    rw [Outcomes.after_bind_ok result, Outcomes.after_bind_ok (getPixels_apply s'), Outcomes.after_ok result]
    have given := serverSetScreenLayout_apply (p := p) s'.pixels.width s'.pixels.height s'.listener
    split_ifs at given
    · have run : onDesktop (serverSetScreenLayout p s'.pixels.width s'.pixels.height) s' = .ok () { s' with
          listener := s'.listener.served { s'.listener.server with
            screenLayout := some (s'.pixels.width, s'.pixels.height) } } := by
        rw [onDesktop, given]
      rw [Outcomes.after_bind_ok run]
      exact ⟨_, rfl⟩
    · have run : onDesktop (serverSetScreenLayout p s'.pixels.width s'.pixels.height) s' = .error () s' := by
        rw [onDesktop, given]
      rw [Outcomes.after_bind_error run]
      exact ⟨s'.listener.server, rfl⟩
  | error u s' =>
    rw [Outcomes.after_bind_error result, Outcomes.after_error result]
    exact ⟨s'.listener.server, rfl⟩

end VncFlinger.Display
