import VncFlinger.Display.Sizes

/-!
# Copying frames into the framebuffer

The frames of a virtual display wait in its buffer queue, and each has the queue's default size.
`processFrames` updates the display geometry before it takes a frame, so a frame may find another
buffer than the one it was drawn for, but then it also finds another queue.
-/

namespace VncFlinger.Display

/-- A buffer of the queue. The stride is a number of pixels. -/
structure Frame (α : Type) where
  width : UInt32
  height : UInt32
  stride : ℕ
  data : ℕ → α

/-- The pixels of a framebuffer that were written since it got its size. -/
abbrev Picture (α : Type) := ℕ → ℕ → Option α

/-- `imageRect` of the base class, with the size of the buffer; it throws for a rectangle that the
buffer does not enclose. -/
abbrev ImageRect (α : Type) := UInt32 × UInt32 → Frame α → Picture α → Option (Picture α)

structure Screen (F α : Type) where
  session : Session F
  frameChanged : Bool := false
  queue : List (Frame α) := []
  picture : Picture α := fun _ _ => none
  changed : List (UInt32 × UInt32) := []

inductive Processed where
  | idle | threw | noFrame | refused | copied
  deriving DecidableEq, Repr

inductive ScreenEvent (α : Type) where
  | start (q : Queries) (device : Input.Device) (clientWidth clientHeight sourceWidth sourceHeight : UInt32)
  | stop
  | resize (reqWidth reqHeight : Int32)
  | props (props : DisplayProps)
  | queueFrame (data : ℕ → α) (stride : ℕ)
  | processFrames (q : Queries)

variable {F α : Type}

/-- `setDefaultBufferSize` refuses an empty size and leaves 1 x 1. -/
def VirtualDisplay.bufferSize (vd : VirtualDisplay) : UInt32 × UInt32 :=
  if 0 < vd.mWidth ∧ 0 < vd.mHeight then (vd.mWidth, vd.mHeight) else (1, 1)

/-- Each notification replaces the virtual display, and its queue with it. -/
def Screen.shows (s : Screen F α) (session : Session F) : Screen F α :=
  if session.buffered.notified = s.session.buffered.notified then { s with session := session }
  else { s with session := session, queue := [], picture := fun _ _ => none }

def queueFrame (data : ℕ → α) (stride : ℕ) (s : Screen F α) : Screen F α :=
  match s.session.buffered.listener.mVirtualDisplay with
  | some vd => { s with
      queue := s.queue ++ [⟨vd.bufferSize.1, vd.bufferSize.2, stride, data⟩], frameChanged := true }
  | none => s

def Session.with (s : Session F) (b : Buffered F Desktop) : Session F := { s with buffered := b }

section Steps

variable [Floats F] (p : Platform) (imageRect : ImageRect α)

def copyFrame (s : Screen F α) : Processed × Screen F α :=
  match s.queue with
  | [] => (.noFrame, s)
  | frame :: rest =>
    match imageRect (s.session.buffered.pixels.width, s.session.buffered.pixels.height) frame s.picture with
    | some picture =>
      (.copied, { s with
        queue := rest, picture := picture, changed := s.changed ++ [(frame.width, frame.height)] })
    | none => (.refused, s)

def processFrames (q : Queries) (s : Screen F α) : Processed × Screen F α :=
  if s.session.buffered.listener.mVirtualDisplay = none ∨ s.session.allocated = false ∨
      s.frameChanged = false then (.idle, s)
  else
    match updateDisplayInfo p q false s.session.buffered with
    | .ok _ b => copyFrame imageRect ({ s with frameChanged := false }.shows (s.session.with b))
    | .error _ b => (.threw, { s with frameChanged := false }.shows (s.session.with b))

/-- The operations of a session, and its frames. An exception that leaves `processFrames` ends the
server loop. -/
def screenStep : Option (Screen F α) → ScreenEvent α → Option (Screen F α)
  | none, _ => none
  | some s, .start q device clientWidth clientHeight sourceWidth sourceHeight =>
    if s.session.started then some s
    else
      let new := s.session.allocate (.constructed clientWidth clientHeight sourceWidth sourceHeight) device
      some ({ s with session := new }.shows (new.start p q))
  | some s, .stop =>
    if s.session.started then some { s with session := s.session.stop p, queue := [] } else some s
  | some s, .resize reqWidth reqHeight =>
    if s.session.Takes (.resize reqWidth reqHeight) then
      some (s.shows (s.session.with (Outcomes.after (setScreenLayout p reqWidth reqHeight) s.session.buffered)))
    else some s
  | some s, .props props =>
    let b := s.session.buffered
    some { s with session := s.session.with { b with listener := setDisplayProps props b.listener } }
  | some s, .queueFrame data stride => some (queueFrame data stride s)
  | some s, .processFrames q =>
    match processFrames p imageRect q s with
    | (.threw, _) | (.refused, _) => none
    | (_, s') => some s'

/-- What `processFrames` takes a frame from, when it gets that far. -/
def Screen.updated (q : Queries) (s : Screen F α) : Option (Screen F α) :=
  if s.session.buffered.listener.mVirtualDisplay = none ∨ s.session.allocated = false ∨
      s.frameChanged = false then none
  else
    match updateDisplayInfo p q false s.session.buffered with
    | .ok _ b => some ({ s with frameChanged := false }.shows (s.session.with b))
    | .error _ _ => none

end Steps

/-- The documented behaviour of `imageRect`. -/
structure Copies (imageRect : ImageRect α) : Prop where
  enclosed : ∀ size frame picture, frame.width ≤ size.1 ∧ frame.height ≤ size.2 → ∃ picture',
    imageRect size frame picture = some picture' ∧ ∀ x y, picture' x y =
      if x < frame.width.toNat ∧ y < frame.height.toNat then some (frame.data (y * frame.stride + x))
      else picture x y
  refused : ∀ size frame picture, ¬(frame.width ≤ size.1 ∧ frame.height ≤ size.2) →
    imageRect size frame picture = none

/-- Every pixel of the framebuffer is the frame's, and the clients are told of all of them. -/
structure ShowsFrame (frame : Frame α) (s : Screen F α) : Prop where
  pixels : ∀ x < s.session.buffered.pixels.width.toNat, ∀ y < s.session.buffered.pixels.height.toNat,
    s.picture x y = some (frame.data (y * frame.stride + x))
  changed : s.changed.getLast? = some (s.session.buffered.pixels.width, s.session.buffered.pixels.height)

/-- The first frame that waits after the update is shown as a whole. -/
def ShowsFrames [Floats F] (p : Platform) (imageRect : ImageRect α) : Option (Screen F α) → ScreenEvent α → Prop
  | some s, .processFrames q => ∀ s' ∈ s.updated p q, ∀ frame ∈ s'.queue.head?,
    (processFrames p imageRect q s).1 = .copied ∧ ShowsFrame frame (processFrames p imageRect q s).2
  | _, _ => True

/-- No frame is taken while the framebuffer is empty. -/
def FindsRoom [Floats F] (p : Platform) : Option (Screen F α) → ScreenEvent α → Prop
  | some s, .processFrames q => ∀ s' ∈ s.updated p q, s'.queue ≠ [] →
    0 < s'.session.buffered.pixels.width ∧ 0 < s'.session.buffered.pixels.height
  | _, _ => True

/-! ### What a notification leaves -/

/-- The virtual display was made for the buffer. -/
def Fitted (b : Buffered F Desktop) : Prop :=
  ∃ vd, b.listener.mVirtualDisplay = some vd ∧ vd.mWidth = b.pixels.width ∧ vd.mHeight = b.pixels.height

/-- Between two states the desktop was told of every change of the buffer's size. -/
structure Follows (b b' : Buffered F Desktop) : Prop where
  grown : b.notified <+: b'.notified
  quiet : b'.notified = b.notified → SameSize b.pixels b'.pixels ∧
    b'.listener.mVirtualDisplay = b.listener.mVirtualDisplay
  told : b'.notified ≠ b.notified → Fitted b'

theorem Follows.refl (b : Buffered F Desktop) : Follows b b :=
  ⟨List.prefix_refl _, fun _ => ⟨⟨rfl, rfl⟩, rfl⟩, fun other => absurd rfl other⟩

theorem Follows.fitted {b b' : Buffered F Desktop} (follows : Follows b b') (fitted : Fitted b) : Fitted b' := by
  by_cases same : b'.notified = b.notified
  · obtain ⟨size, display⟩ := follows.quiet same
    obtain ⟨vd, shown, width, height⟩ := fitted
    exact ⟨vd, display.trans shown, width.trans size.1.symm, height.trans size.2.symm⟩
  · exact follows.told same

theorem Follows.trans {b b' b'' : Buffered F Desktop} (first : Follows b b') (second : Follows b' b'') :
    Follows b b'' := by
  refine ⟨first.grown.trans second.grown, fun same => ?_, fun other => ?_⟩
  · have still : b'.notified = b.notified :=
      (first.grown.eq_of_length_le (by rw [← same]; exact second.grown.length_le)).symm
    obtain ⟨size, display⟩ := first.quiet still
    obtain ⟨size', display'⟩ := second.quiet (same.trans still.symm)
    exact ⟨⟨size'.1.trans size.1, size'.2.trans size.2⟩, display'.trans display⟩
  · by_cases still : b''.notified = b'.notified
    · exact second.fitted (first.told fun same => other (still.trans same))
    · exact second.told still

/-- Whatever else changes, the size and the virtual display stay. -/
theorem Follows.of_same {b b' : Buffered F Desktop} (notified : b'.notified = b.notified)
    (size : SameSize b.pixels b'.pixels)
    (display : b'.listener.mVirtualDisplay = b.listener.mVirtualDisplay) : Follows b b' :=
  ⟨by rw [notified], fun _ => ⟨size, display⟩, fun other => absurd notified other⟩

theorem follows_bind {β γ : Type} {x : BufferM F Desktop γ} {f : γ → BufferM F Desktop β}
    (first : ∀ b, Follows b (Outcomes.after x b)) (rest : ∀ a b, Follows b (Outcomes.after (f a) b))
    (b : Buffered F Desktop) : Follows b (Outcomes.after (x >>= f) b) := by
  have before := first b
  cases result : x b with
  | ok a b' =>
    rw [Outcomes.after_ok result] at before
    rw [Outcomes.after_bind_ok result]
    exact before.trans (rest a b')
  | error u b' =>
    rw [Outcomes.after_error result] at before
    rw [Outcomes.after_bind_error result]
    exact before

theorem follows_showing (b : Buffered F Desktop) (mode : Size) (state : Rotation) :
    Follows b (b.showing mode state) := .of_same rfl ⟨rfl, rfl⟩ rfl

/-! ### A session -/

/-- The virtual display was made for the buffer, unless that is empty, and the frames are its frames. -/
structure Ready (s : Screen F α) : Prop where
  fitted : Fitted s.session.buffered ∨
    s.session.buffered.pixels.width = 0 ∧ s.session.buffered.pixels.height = 0
  queued : ∀ frame ∈ s.queue, ∃ vd, s.session.buffered.listener.mVirtualDisplay = some vd ∧
    (frame.width, frame.height) = vd.bufferSize

def SessionReady (s : Option (Screen F α)) : Prop := ∀ running ∈ s, Ready running

variable {imageRect : ImageRect α} {s : Screen F α}

theorem Ready.shows (ready : Ready s) {session : Session F}
    (follows : Follows s.session.buffered session.buffered) : Ready (s.shows session) := by
  unfold Screen.shows
  split
  · rename_i same
    obtain ⟨size, display⟩ := follows.quiet same
    refine ⟨ready.fitted.imp follows.fitted ?_, fun frame member => ?_⟩
    · rintro ⟨width, height⟩
      exact ⟨size.1.trans width, size.2.trans height⟩
    · obtain ⟨vd, shown, drawn⟩ := ready.queued frame member
      exact ⟨vd, display.trans shown, drawn⟩
  · rename_i renewed
    exact ⟨Or.inl (follows.told renewed), fun frame member => nomatch member⟩

theorem ready_queueFrame (ready : Ready s) (data : ℕ → α) (stride : ℕ) : Ready (queueFrame data stride s) := by
  unfold queueFrame
  split
  · rename_i vd shown
    refine ⟨ready.fitted, fun frame member => ?_⟩
    rcases List.mem_append.mp member with before | new
    · exact ready.queued frame before
    · rw [List.mem_singleton.mp new]
      exact ⟨vd, shown, rfl⟩
  · exact ready

theorem ready_copyFrame (ready : Ready s) : Ready (copyFrame imageRect s).2 := by
  unfold copyFrame
  split
  · exact ready
  · rename_i frame rest queue
    split
    · refine ⟨ready.fitted, fun other member => ready.queued other ?_⟩
      rw [queue]
      exact List.mem_cons_of_mem _ member
    · exact ready

/-! ### Taking a frame -/

theorem bufferSize_filled (vd : VirtualDisplay) : 0 < vd.bufferSize.1 ∧ 0 < vd.bufferSize.2 := by
  unfold VirtualDisplay.bufferSize
  split
  · assumption
  · decide

/-- A frame of the queue fits the buffer if that is not empty, and is then as large. -/
theorem Ready.frame_fits (ready : Ready s) {frame : Frame α} (member : frame ∈ s.queue) :
    let pixels := s.session.buffered.pixels
    (0 < pixels.width ∧ 0 < pixels.height → frame.width = pixels.width ∧ frame.height = pixels.height) ∧
      (¬(0 < pixels.width ∧ 0 < pixels.height) → ¬(frame.width ≤ pixels.width ∧ frame.height ≤ pixels.height)) := by
  intro pixels
  obtain ⟨vd, shown, drawn⟩ := ready.queued frame member
  have filled := bufferSize_filled vd
  rw [← drawn] at filled
  refine ⟨fun room => ?_, fun none fits => none ?_⟩
  · rcases ready.fitted with ⟨vd', shown', width, height⟩ | ⟨empty, _⟩
    · cases shown.symm.trans shown'
      rw [VirtualDisplay.bufferSize, width, height, if_pos room, Prod.mk.injEq] at drawn
      exact drawn
    · exact absurd room.1 (by show ¬0 < s.session.buffered.pixels.width; rw [empty]; decide)
  · simp only [UInt32.lt_iff_toNat_lt, UInt32.le_iff_toNat_le] at filled fits ⊢
    omega

/-- A frame of a queue that is ready is shown as a whole, unless the buffer is empty. -/
theorem Ready.copy_iff (ready : Ready s) (copies : Copies imageRect) :
    (∀ frame ∈ s.queue.head?,
        (copyFrame imageRect s).1 = .copied ∧ ShowsFrame frame (copyFrame imageRect s).2) ↔
      (s.queue ≠ [] → 0 < s.session.buffered.pixels.width ∧ 0 < s.session.buffered.pixels.height) := by
  cases queue : s.queue with
  | nil => exact iff_of_true (fun frame none => nomatch none) fun other => absurd rfl other
  | cons frame rest =>
    have first : frame ∈ s.queue := by rw [queue]; exact List.mem_cons_self
    obtain ⟨fits, beyond⟩ := ready.frame_fits first
    by_cases room : 0 < s.session.buffered.pixels.width ∧ 0 < s.session.buffered.pixels.height
    · have size := fits room
      obtain ⟨picture, copied, shows⟩ := copies.enclosed
        (s.session.buffered.pixels.width, s.session.buffered.pixels.height) frame s.picture
        ⟨UInt32.le_of_eq size.1, UInt32.le_of_eq size.2⟩
      have run : copyFrame imageRect s = (.copied, { s with
          queue := rest, picture := picture, changed := s.changed ++ [(frame.width, frame.height)] }) := by
        rw [copyFrame, queue]
        simp only [copied]
      rw [run]
      refine iff_of_true ?_ fun _ => room
      rintro frame' ⟨⟩
      refine ⟨rfl, fun x inX y inY => ?_, ?_⟩
      · exact (shows x y).trans (if_pos (by rw [size.1, size.2]; exact ⟨inX, inY⟩))
      · exact List.getLast?_concat.trans (by rw [size.1, size.2])
    · have refused := copies.refused (s.session.buffered.pixels.width, s.session.buffered.pixels.height) frame
        s.picture (beyond room)
      have run : copyFrame imageRect s = (.refused, s) := by
        rw [copyFrame, queue]
        simp only [refused]
      rw [run]
      refine iff_of_false ?_ fun filled => room (filled (List.cons_ne_nil _ _))
      intro taken
      cases (taken frame rfl).1

/-! ### The calls -/

variable [Floats F] {p : Platform}

theorem told_display (pixels : PixelBuffer F) (d : Desktop) :
    (p.buffer.told pixels d).mVirtualDisplay = some (newDisplay pixels d) := by
  obtain ⟨server, told⟩ := told_served (p := p) pixels d
  rw [told]
  exact (sameGeometry_callback p { d with mVirtualDisplay := some (newDisplay pixels d) }).display

theorem follows_notify (b : Buffered F Desktop) (pixels : PixelBuffer F) :
    Follows b (Outcomes.after (notify p.buffer) (b.with pixels)) := by
  rw [after_notify]
  refine ⟨List.prefix_append _ _, fun same => ?_, fun _ => ?_⟩
  · have longer := congrArg List.length same
    simp [Buffered.with] at longer
  · exact ⟨newDisplay pixels b.listener, told_display pixels b.listener, rfl, rfl⟩

theorem follows_of_ends {x : BufferM F Desktop Unit} (ends : ∀ b, Ends p.buffer b (x b)) (b : Buffered F Desktop) :
    Follows b (Outcomes.after x b) := by
  have ends := ends b
  generalize result : x b = r at ends
  cases ends with
  | quiet same =>
    rw [Outcomes.after_ok result]
    exact .of_same rfl same rfl
  | refused same _ =>
    rw [Outcomes.after_error result]
    exact .of_same rfl same rfl
  | told _ =>
    rw [Outcomes.after_congr result]
    exact follows_notify b _

theorem follows_setDisplayInfo (mode : Size) (state : Rotation) (force : Bool) (b : Buffered F Desktop) :
    Follows b (Outcomes.after (setDisplayInfo p.buffer mode state force) b) := by
  rw [setDisplayInfo_eq]
  exact follows_bind (follows_of_ends (ends_setBufferRotation p.buffer _))
    (fun _ => follows_of_ends (ends_setSource p.buffer _ _ force)) b

theorem follows_updateDisplayInfo (q : Queries) (force : Bool) (b : Buffered F Desktop) :
    Follows b (Outcomes.after (updateDisplayInfo p q force) b) := by
  cases outcome : stored q b.listener with
  | nothing =>
    obtain ⟨_, _, run⟩ := updateDisplayInfo_nothing (p := p) force outcome
    rw [Outcomes.after_ok run]
    exact .refl b
  | modeOnly mode =>
    rw [Outcomes.after_ok (updateDisplayInfo_modeOnly force outcome)]
    exact follows_showing b _ _
  | both mode state =>
    rw [Outcomes.after_congr (updateDisplayInfo_both force outcome)]
    refine (follows_showing b mode state).trans ?_
    refine follows_bind (follows_setDisplayInfo mode state force) ?_ _
    exact fun _ b' => .refl b'

theorem start_follows (q : Queries) (b : Buffered F Desktop) : Follows b (Outcomes.after (start p q) b) := by
  refine follows_bind (follows_updateDisplayInfo q true) (fun status b => ?_) b
  cases status with
  | noError =>
    refine follows_bind (x := getPixels) (fun b => .refl b) (fun pixels b => ?_) b
    refine follows_bind ?_ ?_ b
    · intro b
      rw [after_onDesktop]
      exact .of_same rfl ⟨rfl, rfl⟩ (sameGeometry_setPixelBuffer p _ _ b.listener).display
    · exact fun _ b => .refl b
  | _ => exact .refl b

theorem follows_setScreenLayout (reqWidth reqHeight : Int32) (b : Buffered F Desktop) :
    Follows b (Outcomes.after (setScreenLayout p reqWidth reqHeight) b) := by
  have run := setScreenLayout_apply (p := p) reqWidth reqHeight b
  split_ifs at run
  · rw [Outcomes.after_ok run]
    exact .of_same rfl ⟨rfl, rfl⟩ (sameGeometry_callback p b.listener).display
  · rw [Outcomes.after_ok run]
    exact .refl b
  · obtain ⟨server, after⟩ := layout_after (p := p) reqWidth.toUInt32 reqHeight.toUInt32 b
    rw [Outcomes.after_congr run, after]
    have windowed := follows_of_ends (p := p) (ends_setWindowSize p.buffer reqWidth.toUInt32 reqHeight.toUInt32) b
    exact windowed.trans (.of_same rfl ⟨rfl, rfl⟩ rfl)
  · rw [Outcomes.after_ok run]
    exact .refl b

/-- `processFrames` takes a frame from the updated state, or leaves or throws before. -/
theorem processFrames_cases (p : Platform) (imageRect : ImageRect α) (q : Queries) (s : Screen F α) :
    s.updated p q = none ∧ ((processFrames p imageRect q s) = (.idle, s) ∨ (processFrames p imageRect q s).1 = .threw) ∨
    ∃ status b, updateDisplayInfo p q false s.session.buffered = .ok status b ∧
      s.updated p q = some ({ s with frameChanged := false }.shows (s.session.with b)) ∧
      processFrames p imageRect q s = copyFrame imageRect ({ s with frameChanged := false }.shows (s.session.with b)) := by
  unfold processFrames Screen.updated
  split
  · exact Or.inl ⟨rfl, Or.inl rfl⟩
  · cases result : updateDisplayInfo p q false s.session.buffered with
    | ok status b => exact Or.inr ⟨status, b, rfl, rfl, rfl⟩
    | error e b => exact Or.inl ⟨rfl, Or.inr rfl⟩

theorem updated_ready {q : Queries} {status : UpdateStatus} {b : Buffered F Desktop} (ready : Ready s)
    (ok : updateDisplayInfo p q false s.session.buffered = .ok status b) :
    Ready ({ s with frameChanged := false }.shows (s.session.with b)) := by
  have follows := follows_updateDisplayInfo (p := p) q false s.session.buffered
  rw [Outcomes.after_ok ok] at follows
  have unchanged : Ready { s with frameChanged := false } := ⟨ready.fitted, ready.queued⟩
  exact unchanged.shows follows

theorem showsFrames_iff (copies : Copies imageRect) {state : Option (Screen F α)} (session : SessionReady state)
    (event : ScreenEvent α) : ShowsFrames p imageRect state event ↔ FindsRoom p state event := by
  cases state with
  | none => exact Iff.rfl
  | some s =>
    cases event with
    | processFrames q =>
      unfold ShowsFrames FindsRoom
      simp only
      rcases processFrames_cases p imageRect q s with
        ⟨left, _⟩ | ⟨status, b, ok, updated, copying⟩
      · rw [left]
        exact iff_of_true (fun s' none => nomatch none) fun s' none => nomatch none
      · rw [updated, copying]
        simp only [Option.mem_some_iff, forall_eq']
        exact (updated_ready (session s rfl) ok).copy_iff copies
    | _ => exact Iff.rfl

/-! ### Runs -/

theorem session_step {state : Option (Screen F α)} (session : SessionReady state) (event : ScreenEvent α) :
    SessionReady (screenStep p imageRect state event) := by
  intro running member
  cases state with
  | none => cases member
  | some s =>
    have before := session s rfl
    cases event with
    | start q device clientWidth clientHeight sourceWidth sourceHeight =>
      rw [screenStep] at member
      split at member
      · cases member
        exact before
      · cases member
        let session := s.session.allocate (.constructed clientWidth clientHeight sourceWidth sourceHeight) device
        have new : Ready { s with session := session } := ⟨Or.inr ⟨rfl, rfl⟩, before.queued⟩
        refine new.shows ?_
        rw [start_buffered]
        exact start_follows q _
    | stop =>
      rw [screenStep] at member
      split at member
      · cases member
        exact ⟨Or.inr ⟨rfl, rfl⟩, fun frame member => nomatch member⟩
      · cases member
        exact before
    | resize reqWidth reqHeight =>
      rw [screenStep] at member
      split at member
      · cases member
        exact before.shows (follows_setScreenLayout reqWidth reqHeight s.session.buffered)
      · cases member
        exact before
    | props props =>
      cases member
      exact ⟨before.fitted, before.queued⟩
    | queueFrame data stride =>
      cases member
      exact ready_queueFrame before data stride
    | processFrames q =>
      rw [screenStep] at member
      rcases processFrames_cases p imageRect q s with
        ⟨_, idle | threw⟩ | ⟨status, b, ok, _, copying⟩
      · rw [idle] at member
        cases member
        exact before
      · generalize processFrames p imageRect q s = processed at member threw
        obtain ⟨ending, s'⟩ := processed
        subst threw
        cases member
      · have left : running =
            (copyFrame imageRect ({ s with frameChanged := false }.shows (s.session.with b))).2 := by
          rw [copying] at member
          generalize copyFrame imageRect ({ s with frameChanged := false }.shows (s.session.with b)) = copied
            at member
          obtain ⟨ending, s'⟩ := copied
          cases ending <;> cases member <;> rfl
        rw [left]
        exact ready_copyFrame (updated_ready before ok)

/-- The desktop before its first start. -/
def Screen.constructed (d : Desktop) : Screen F α := { session := unstarted d }

/-- In every run of sessions, whatever the geometry does and however calls end, each frame that
`processFrames` takes becomes the whole framebuffer, exactly when none is taken into an empty one. -/
theorem frames_shown_along_run (copies : Copies imageRect) (d : Desktop) (run : List (ScreenEvent α)) :
    Runs.Along (screenStep p imageRect) (ShowsFrames p imageRect) (some (.constructed d : Screen F α)) run ↔
      Runs.Along (screenStep p imageRect) (FindsRoom p) (some (.constructed d : Screen F α)) run := by
  have start : SessionReady (some (.constructed d : Screen F α)) := by
    intro running member
    cases member
    exact ⟨Or.inr ⟨rfl, rfl⟩, fun frame member => nomatch member⟩
  apply Runs.along_iff start
  · exact fun state event _ session => showsFrames_iff copies session event
  · exact fun state event _ session _ => session_step session event

/-- A copy row by row. -/
def blit : ImageRect α := fun size frame picture =>
  if frame.width ≤ size.1 ∧ frame.height ≤ size.2 then
    some fun x y =>
      if x < frame.width.toNat ∧ y < frame.height.toNat then some (frame.data (y * frame.stride + x))
      else picture x y
  else none

theorem blit_copies : Copies (blit : ImageRect α) where
  enclosed _ _ _ inside := ⟨_, if_pos inside, fun _ _ => rfl⟩
  refused _ _ _ outside := if_neg outside

/-- A frame as large as the display, a new window, and a frame of its size. -/
def windowed : List (ScreenEvent ℕ) :=
  [.start (portrait .rotation0) .closed 0 0 0 0, .queueFrame id 1088, .processFrames (portrait .rotation0),
    .resize 640 480, .queueFrame id 640, .processFrames (portrait .rotation0)]

def mirroringScreen : Screen Single ℕ := .constructed { mLayerId := 0, mInputDevice := .closed }

theorem frames_shown_windowed :
    Runs.Along (screenStep .serving blit) (ShowsFrames .serving blit) (some mirroringScreen) windowed ↔
      Runs.Along (screenStep .serving blit) (FindsRoom .serving) (some mirroringScreen) windowed :=
  frames_shown_along_run blit_copies _ _

end VncFlinger.Display
