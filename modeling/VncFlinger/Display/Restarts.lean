import VncFlinger.Library.Alike
import VncFlinger.Input.Alongside
import VncFlinger.Display.Sizes
import VncFlinger.Display.Cursor

/-!
# Sessions of one desktop

The desktop outlives the sessions of its clients. `stop` leaves the display mode, the viewport and
what the server was told behind, and a new pixel buffer and a new input device have members that nothing
has set. None of it is seen in the session of the next start.
-/

namespace VncFlinger.Display

/-- The display properties, which are Java's. -/
structure SameProps (d d' : Desktop) : Prop where
  mLayerId : d'.mLayerId = d.mLayerId
  width : d'.width = d.width
  height : d'.height = d.height
  rotation : d'.rotation = d.rotation
  touch : d'.touch = d.touch
  relative : d'.relative = d.relative

/-- The same server, which answers both alike from now on, as Java and the system do. -/
structure AnsweredAlike (p p' : Platform) (d d' : Desktop) (device device' : Input.Device) : Prop where
  setSizeAccepts : p'.setSizeAccepts = p.setSizeAccepts
  setPixelBufferReturns : p'.setPixelBufferReturns = p.setPixelBufferReturns
  setScreenLayoutReturns : p'.setScreenLayoutReturns = p.setScreenLayoutReturns
  displayProps : ∀ n, p'.displayProps (d'.callbacks + n) = p.displayProps (d.callbacks + n)
  openFd : ∀ n, p'.sys.openFd (device'.kernel.calls + n) = p.sys.openFd (device.kernel.calls + n)
  ioctlOk : ∀ n, p'.sys.ioctlOk (device'.kernel.calls + n) = p.sys.ioctlOk (device.kernel.calls + n)
  writeOk : ∀ n, p'.sys.writeOk (device'.kernel.calls + n) = p.sys.writeOk (device.kernel.calls + n)

section Session

variable {F : Type} [Floats F]

/-- A start that succeeds. -/
def opened (p : Platform) (q : Queries) (s : Buffered F Desktop) : Option (Buffered F Desktop) :=
  match start p q s with
  | .ok true s' => some s'
  | _ => none

/-- A session: a start, and what happens until the stop. There is none if the start fails. -/
def session (p : Platform) (q : Queries) (pixels : PixelBuffer F) (device : Input.Device) (d : Desktop)
    (run : List ClientEvent) : Option (Buffered F Desktop) :=
  run.foldl (clientStep p) (opened p q (allocate pixels device d))

end Session

/-- The device's members that are read before they are set, and what was written to it since. -/
def sinceDevice (first d : Input.Device) : Input.Device :=
  d.beside {} { writes := d.kernel.writes.drop first.kernel.writes.length }

def Desktop.beside (d : Desktop) (n : ℕ) (device : Input.Device) : Desktop :=
  { d with callbacks := n, mInputDevice := device }

/-- What a session that began with this device leaves: all but the number of calls so far. -/
def Buffered.since {F : Type} (first : Input.Device) (b : Buffered F Desktop) : Buffered F Desktop :=
  { b with listener := b.listener.beside 0 (sinceDevice first b.listener.mInputDevice) }

/-! ### Two desktops side by side -/

/-- A platform, the answers another gives in its stead, and what had been written to either device. -/
structure Twins where
  p : Platform
  sys : Input.Sys
  displayProps : Nat → Option DisplayProps
  earlier : List Input.Write
  earlier' : List Input.Write

namespace Twins

abbrev p' (t : Twins) : Platform := { t.p with sys := t.sys, displayProps := t.displayProps }

structure Numbered (t : Twins) (n n' : ℕ) : Prop where
  displayProps : ∀ k, t.displayProps (n' + k) = t.p.displayProps (n + k)

/-- The desktops differ in their numbers of calls alone, and go on being answered alike. -/
def Related (t : Twins) (d d' : Desktop) : Prop :=
  ∃ n device, d' = d.beside n device ∧ t.Numbered d.callbacks n ∧
    Input.Alongside t.p.sys t.sys t.earlier t.earlier' d.mInputDevice device

/-- Two buffers whose listeners are related, and which agree otherwise. -/
structure Both {F : Type} (t : Twins) (b b' : Buffered F Desktop) : Prop where
  pixels : b'.pixels = b.pixels
  notified : b'.notified = b.notified
  listener : t.Related b.listener b'.listener

def Keeps {α : Type} (t : Twins) (x x' : ListenerM α) : Prop := Alike.Calls t.Related t.Related t.Related x x'

def KeepsBoth {F α : Type} (t : Twins) (x x' : DesktopM F α) : Prop := Alike.Calls t.Both t.Both t.Both x x'

variable {t : Twins} {F : Type}

theorem Numbered.next {n n' : ℕ} (numbered : t.Numbered n n') : t.Numbered (n + 1) (n' + 1) := by
  constructor
  intro k
  rw [Nat.add_assoc, Nat.add_assoc]
  exact numbered.displayProps (1 + k)

theorem Numbered.answer {n n' : ℕ} (numbered : t.Numbered n n') : t.displayProps n' = t.p.displayProps n :=
  numbered.displayProps 0

/-! ### The listener -/

theorem keeps_callback : t.Keeps (runJniCallback t.p) (runJniCallback t.p') := by
  apply Alike.modifies
  rintro d _ ⟨n, device, rfl, numbered, alongside⟩
  have answer : t.displayProps (d.beside n device).callbacks = t.p.displayProps d.callbacks := numbered.answer
  dsimp only
  rw [answer]
  cases t.p.displayProps d.callbacks with
  | none => exact ⟨n + 1, device, rfl, numbered.next, alongside⟩
  | some props => exact ⟨n + 1, device, rfl, numbered.next, alongside⟩

/-- A change that looks neither at the number of the callbacks nor at the device. -/
theorem keeps_modify {f : Desktop → Desktop}
    (apart : ∀ d n device, f (d.beside n device) = (f d).beside n device := by intros; rfl)
    (callbacks : ∀ d, (f d).callbacks = d.callbacks := by intros; rfl)
    (mInputDevice : ∀ d, (f d).mInputDevice = d.mInputDevice := by intros; rfl) :
    t.Keeps (modify f : ListenerM PUnit) (modify f) := by
  apply Alike.modifies
  rintro d _ ⟨n, device, rfl, numbered, alongside⟩
  refine ⟨n, device, apart d n device, ?_, ?_⟩
  · rw [callbacks]
    exact numbered
  · rw [mInputDevice]
    exact alongside

/-- An operation of the device, which may depend on the desktop's other members. -/
theorem keeps_device {α : Type} (x x' : Desktop → Input.DeviceM α)
    (apart : ∀ d n device, x' (d.beside n device) = x' d)
    (steps : ∀ d, Input.KeepsAlongside t.p.sys t.sys t.earlier t.earlier' (x d) (x' d)) :
    t.Keeps (modify fun d => { d with mInputDevice := (x d d.mInputDevice).2 } : ListenerM PUnit)
      (modify fun d => { d with mInputDevice := (x' d d.mInputDevice).2 }) := by
  apply Alike.modifies
  rintro d _ ⟨n, device, rfl, numbered, alongside⟩
  refine ⟨n, (x' d device).2, ?_, numbered, (steps d _ _ alongside).2⟩
  rw [apart]
  rfl

theorem keeps_setPixelBuffer (w h : UInt32) : t.Keeps (setPixelBuffer t.p w h) (setPixelBuffer t.p' w h) :=
  Alike.choice keeps_modify (Alike.throws ())

theorem keeps_serverSetScreenLayout (w h : UInt32) :
    t.Keeps (serverSetScreenLayout t.p w h) (serverSetScreenLayout t.p' w h) :=
  Alike.choice keeps_modify (Alike.throws ())

theorem keeps_reconfigureInput : t.Keeps (reconfigureInput t.p) (reconfigureInput t.p') :=
  keeps_device
    (fun d => Input.reconfigure t.p.sys d.mDisplayMode.width.toUInt32 d.mDisplayMode.height.toUInt32 d.touch d.relative)
    (fun d => Input.reconfigure t.sys d.mDisplayMode.width.toUInt32 d.mDisplayMode.height.toUInt32 d.touch d.relative)
    (fun _ _ _ => rfl) fun _ => Input.keeps_reconfigure _ _ _ _

theorem keeps_onBufferDimensionsChanged [Floats F] (b : PixelBuffer F) (w h : UInt32) :
    t.Keeps (onBufferDimensionsChanged t.p b w h) (onBufferDimensionsChanged t.p' b w h) := by
  apply Alike.sequence keeps_modify
  intro _
  apply Alike.reads
  rintro d _ ⟨n, device, rfl, _⟩
  apply Alike.sequence keeps_modify
  intro _
  apply Alike.sequence keeps_callback
  intro _
  apply Alike.sequence keeps_modify
  intro _
  apply Alike.sequence keeps_reconfigureInput
  intro _
  exact Alike.sequence (keeps_setPixelBuffer _ _) fun _ => keeps_serverSetScreenLayout _ _

/-! ### The operations -/

theorem keeps_onDesktop {α : Type} {x x' : ListenerM α} (keeps : t.Keeps x x') :
    t.KeepsBoth (onDesktop x : DesktopM F α) (onDesktop x') := by
  intro s s' both
  have ends := keeps _ _ both.listener
  unfold onDesktop
  generalize x s.listener = r, x' s'.listener = r' at ends
  cases ends with
  | returned related => exact .returned ⟨both.pixels, both.notified, related⟩
  | threw related => exact .threw ⟨both.pixels, both.notified, related⟩

theorem keeps_updatePixels (f : PixelBuffer F → PixelBuffer F) :
    t.KeepsBoth (updatePixels f) (updatePixels f) := by
  apply Alike.modifies
  intro s s' both
  exact ⟨congrArg f both.pixels, both.notified, both.listener⟩

theorem keeps_getPixels : t.KeepsBoth (getPixels : DesktopM F (PixelBuffer F)) getPixels := by
  intro s s' both
  rw [getPixels_apply, getPixels_apply, both.pixels]
  exact .returned both

theorem keeps_keyEvent (keysym : UInt32) (down : Bool) :
    t.KeepsBoth (keyEvent t.p keysym down : DesktopM F Unit) (keyEvent t.p' keysym down) :=
  keeps_onDesktop (keeps_device (fun _ => Input.keyEvent t.p.sys down keysym)
    (fun _ => Input.keyEvent t.sys down keysym) (fun _ _ _ => rfl) fun _ => Input.keeps_keyEvent down keysym)

variable [Floats F]

theorem keeps_setSize (w h : UInt32) :
    t.KeepsBoth (setSize t.p.buffer w h : DesktopM F Unit) (setSize t.p'.buffer w h) :=
  Alike.choice (keeps_updatePixels _) (Alike.throws ())

theorem keeps_notify : t.KeepsBoth (notify t.p.buffer : DesktopM F Unit) (notify t.p'.buffer) := by
  intro s s' both
  have ends : Alike.Endings t.Related t.Related
      (t.p.buffer.onBufferDimensionsChanged s.pixels s.pixels.width s.pixels.height s.listener)
      (t.p'.buffer.onBufferDimensionsChanged s.pixels s.pixels.width s.pixels.height s'.listener) :=
    keeps_onBufferDimensionsChanged s.pixels s.pixels.width s.pixels.height _ _ both.listener
  unfold notify
  rw [both.pixels, both.notified]
  generalize t.p.buffer.onBufferDimensionsChanged s.pixels s.pixels.width s.pixels.height s.listener = r,
    t.p'.buffer.onBufferDimensionsChanged s.pixels s.pixels.width s.pixels.height s'.listener = r' at ends
  cases ends with
  | returned related => exact .returned ⟨rfl, rfl, related⟩
  | threw related => exact .threw ⟨rfl, rfl, related⟩

theorem keeps_setBufferRotation (rotated : Bool) : t.KeepsBoth (setBufferRotation t.p.buffer rotated : DesktopM F Unit)
    (setBufferRotation t.p'.buffer rotated) := by
  apply Alike.sequence keeps_getPixels
  intro b
  apply Alike.choice
  · apply Alike.sequence (keeps_updatePixels _)
    intro _
    apply Alike.sequence keeps_getPixels
    intro b
    apply Alike.sequence (keeps_setSize _ _)
    intro _
    exact Alike.sequence (keeps_updatePixels _) fun _ => keeps_notify
  · exact Alike.returns _

theorem keeps_followClient :
    t.KeepsBoth (followClient t.p.buffer : DesktopM F Unit) (followClient t.p'.buffer) := by
  apply Alike.sequence keeps_getPixels
  intro b
  apply Alike.sequence (keeps_updatePixels _)
  intro _
  apply Alike.choice (Alike.returns _)
  exact Alike.sequence (keeps_setSize _ _) fun _ => keeps_notify

theorem keeps_setWindowSize (width height : UInt32) : t.KeepsBoth (setWindowSize t.p.buffer width height : DesktopM F Unit)
    (setWindowSize t.p'.buffer width height) := by
  apply Alike.sequence keeps_getPixels
  intro b
  apply Alike.choice
  · exact Alike.sequence (keeps_updatePixels _) fun _ => keeps_followClient
  · exact Alike.returns _

theorem keeps_setDisplayInfo (mode : Size) (state : Rotation) (force : Bool) :
    t.KeepsBoth (setDisplayInfo t.p.buffer mode state force : DesktopM F Unit)
      (setDisplayInfo t.p'.buffer mode state force) := by
  rw [setDisplayInfo_eq, setDisplayInfo_eq]
  apply Alike.sequence (keeps_setBufferRotation _)
  intro _
  apply Alike.sequence keeps_getPixels
  intro b
  apply Alike.choice
  · apply Alike.sequence (keeps_updatePixels _)
    intro _
    exact Alike.sequence (keeps_updatePixels _) fun _ => keeps_followClient
  · exact Alike.returns _

theorem keeps_storeDisplayInfo (q : Queries) : t.Keeps (storeDisplayInfo q) (storeDisplayInfo q) := by
  apply Alike.reads
  rintro d _ ⟨n, device, rfl, _⟩
  apply Alike.choice
  · apply Alike.choice (Alike.returns _)
    cases q.activeDisplayMode with
    | none => exact Alike.returns _
    | some mode =>
      apply Alike.sequence keeps_modify
      intro _
      cases q.displayState with
      | none => exact Alike.returns _
      | some orientation =>
        apply Alike.sequence keeps_modify
        intro _
        exact Alike.sequence keeps_modify fun _ => Alike.returns _
  · apply Alike.choice
    · apply Alike.sequence keeps_modify
      intro _
      exact Alike.sequence keeps_modify fun _ => Alike.returns _
    · exact Alike.returns _

theorem keeps_updateDisplayInfo (q : Queries) (force : Bool) :
    t.KeepsBoth (updateDisplayInfo t.p q force : DesktopM F UpdateStatus) (updateDisplayInfo t.p' q force) := by
  apply Alike.sequence (keeps_onDesktop (keeps_storeDisplayInfo q))
  intro status
  cases status with
  | noError =>
    apply Alike.reads
    rintro s s' ⟨_, _, n, device, apart, _⟩
    rw [apart]
    exact Alike.sequence (keeps_setDisplayInfo _ _ force) fun _ => Alike.returns _
  | _ => exact Alike.returns _

theorem keeps_setScreenLayout (reqWidth reqHeight : Int32) :
    t.KeepsBoth (setScreenLayout t.p reqWidth reqHeight : DesktopM F Bool)
      (setScreenLayout t.p' reqWidth reqHeight) := by
  apply Alike.reads
  rintro s s' ⟨_, _, n, device, apart, _⟩
  rw [apart]
  apply Alike.choice
  · exact Alike.sequence (keeps_onDesktop keeps_callback) fun _ => Alike.returns _
  · apply Alike.choice (Alike.returns _)
    apply Alike.choice
    · apply Alike.sequence (keeps_setWindowSize _ _)
      intro _
      apply Alike.sequence keeps_getPixels
      intro b
      exact Alike.sequence (keeps_onDesktop (keeps_serverSetScreenLayout _ _)) fun _ => Alike.returns _
    · exact Alike.returns _

theorem keeps_pointerEvent (undefined : UInt32 × UInt32) (pos : Point) (buttonMask : Int32) :
    t.KeepsBoth (pointerEvent t.p undefined pos buttonMask : DesktopM F (Option Point))
      (pointerEvent t.p' undefined pos buttonMask) := by
  apply Alike.reads
  rintro s s' ⟨_, _, n, device, apart, _⟩
  rw [apart]
  apply Alike.choice (Alike.returns _)
  apply Alike.sequence keeps_getPixels
  intro b
  refine Alike.sequence (keeps_onDesktop ?_) fun _ => Alike.returns _
  exact keeps_device (fun _ => Input.pointerEvent t.p.sys buttonMask _ _)
    (fun _ => Input.pointerEvent t.sys buttonMask _ _) (fun _ _ _ => rfl) fun _ =>
      Input.keeps_pointerEvent buttonMask _ _

/-! ### Runs -/

omit [Floats F] in
theorem both_after {α : Type} {x x' : DesktopM F α} (keeps : t.KeepsBoth x x') {s s' : Buffered F Desktop}
    (both : t.Both s s') : t.Both (Outcomes.after x s) (Outcomes.after x' s') := by
  have ends := keeps s s' both
  unfold Outcomes.after
  generalize x s = r, x' s' = r' at ends
  cases ends with
  | returned related => exact related
  | threw related => exact related

theorem alike_clientStep {s s' : Option (Buffered F Desktop)} (alike : Option.Rel t.Both s s')
    (event : ClientEvent) : Option.Rel t.Both (clientStep t.p s event) (clientStep t.p' s' event) := by
  cases alike with
  | none => cases event with
    | desktop event => exact .none
    | pointer => exact .none
    | key => exact .none
  | @some s s' both =>
    cases event with
    | pointer pos buttonMask undefined => exact .some (both_after (keeps_pointerEvent _ _ _) both)
    | key keysym down => exact .some (both_after (keeps_keyEvent _ _) both)
    | desktop event =>
      cases event with
      | resize reqWidth reqHeight => exact .some (both_after (keeps_setScreenLayout _ _) both)
      | props props =>
        obtain ⟨pixels, notified, n, device, apart, numbered, alongside⟩ := both
        exact .some ⟨pixels, notified, n, device, congrArg (setDisplayProps props) apart, numbered, alongside⟩
      | update q =>
        have ends := keeps_updateDisplayInfo q false s s' both
        unfold clientStep desktopStep
        simp only
        generalize updateDisplayInfo t.p q false s = r, updateDisplayInfo t.p' q false s' = r' at ends
        cases ends with
        | returned related => exact .some related
        | threw => exact .none

theorem alike_run {s s' : Option (Buffered F Desktop)} (alike : Option.Rel t.Both s s') (run : List ClientEvent) :
    Option.Rel t.Both (run.foldl (clientStep t.p) s) (run.foldl (clientStep t.p') s') := by
  induction run generalizing s s' with
  | nil => exact alike
  | cons event run ih => exact ih (alike_clientStep alike event)

/-! ### The start -/

/-- What the first size is announced with. The rest is set on the way. -/
def Begins (t : Twins) (d d' : Desktop) : Prop :=
  ∃ shown rect server n device, d' = { d with
      mVirtualDisplay := shown, mDisplayRect := rect, server := server, callbacks := n, mInputDevice := device } ∧
    t.Numbered d.callbacks n ∧ Input.Attends t.p.sys t.sys t.earlier t.earlier' d.mInputDevice device

omit [Floats F] in
theorem Related.begins {d d' : Desktop} (related : t.Related d d') : t.Begins d d' := by
  obtain ⟨n, device, rfl, numbered, alongside⟩ := related
  exact ⟨d.mVirtualDisplay, d.mDisplayRect, d.server, n, device, rfl, numbered, alongside.attends⟩

theorem rebuilt_related {b b' : PixelBuffer F} (width : b'.width = b.width) (height : b'.height = b.height)
    {d d' : Desktop} (begins : t.Begins d d') (server : Server) :
    t.Related ((rebuilt t.p b d).served server) ((rebuilt t.p' b' d').served server) := by
  obtain ⟨shown, rect, given, n, device, rfl, numbered, attends⟩ := begins
  have display : ∀ d : Desktop, newDisplay b' d = newDisplay b d := by
    intro d
    rw [newDisplay, newDisplay, width, height]
  unfold rebuilt displayed runJniCallback reconfigureInput
  rw [display]
  simp only [Outcomes.after, Outcomes.modify_apply]
  rw [numbered.answer]
  cases t.p.displayProps d.callbacks with
  | none => exact ⟨n + 1, _, rfl, numbered.next, (Input.reconfigure_alongside _ _ _ _ _ _ attends).2⟩
  | some props => exact ⟨n + 1, _, rfl, numbered.next, (Input.reconfigure_alongside _ _ _ _ _ _ attends).2⟩

theorem alike_listener {b b' : PixelBuffer F} (width : b'.width = b.width) (height : b'.height = b.height)
    {d d' : Desktop} (begins : t.Begins d d') :
    Alike.Endings (fun _ _ => True) t.Related (t.p.buffer.onBufferDimensionsChanged b b.width b.height d)
      (t.p'.buffer.onBufferDimensionsChanged b' b'.width b'.height d') := by
  have run := listener_apply (p := t.p) b b.width b.height d
  have run' := listener_apply (p := t.p') b' b'.width b'.height d'
  show Alike.Endings _ _ (onBufferDimensionsChanged t.p b b.width b.height d)
    (onBufferDimensionsChanged t.p' b' b'.width b'.height d')
  rw [run, run', width, height]
  split_ifs
  · exact .returned (rebuilt_related width height begins _)
  · exact .threw trivial

/-- Two buffers before their first size. -/
structure Begun (t : Twins) (s s' : Buffered F Desktop) : Prop where
  sizeless : Sizeless s.pixels
  sizeless' : Sizeless s'.pixels
  turned : s'.pixels.mRotated = s.pixels.mRotated
  notified : s'.notified = s.notified
  listener : t.Begins s.listener s'.listener

theorem alike_notify (s s' : Buffered F Desktop) (width : s'.pixels.width = s.pixels.width)
    (height : s'.pixels.height = s.pixels.height) (begins : t.Begins s.listener s'.listener)
    (notified : s'.notified = s.notified) :
    Alike.Endings (fun _ _ => True)
      (fun b b' => b.pixels = s.pixels ∧ b'.pixels = s'.pixels ∧ b'.notified = b.notified ∧
        t.Related b.listener b'.listener) (notify t.p.buffer s) (notify t.p'.buffer s') := by
  have ends := alike_listener width height begins
  unfold notify
  generalize t.p.buffer.onBufferDimensionsChanged s.pixels s.pixels.width s.pixels.height s.listener = r,
    t.p'.buffer.onBufferDimensionsChanged s'.pixels s'.pixels.width s'.pixels.height s'.listener = r' at ends
  cases ends with
  | returned related => exact .returned ⟨rfl, rfl, by rw [notified, width, height], related⟩
  | threw => exact .threw trivial

theorem begun_setBufferRotation (rotated : Bool) :
    Alike.Calls (fun _ _ => True) t.Begun t.Begun (setBufferRotation t.p.buffer rotated : DesktopM F Unit)
      (setBufferRotation t.p'.buffer rotated) := by
  intro s s' begun
  obtain ⟨sizeless, sizeless', turned, notified, listener⟩ := begun
  by_cases same : rotated = s.pixels.mRotated
  · rw [setBufferRotation_same _ same, setBufferRotation_same _ (same.trans turned.symm)]
    exact .returned ⟨sizeless, sizeless', turned, notified, listener⟩
  · have turns : rotated ≠ s'.pixels.mRotated := by rw [turned]; exact same
    cases accepted : t.p.setSizeAccepts 0 0 with
    | true =>
      rw [setBufferRotation_accepted _ same (by rw [sizeless.width, sizeless.height]; exact accepted),
        setBufferRotation_accepted _ turns (by rw [sizeless'.width, sizeless'.height]; exact accepted)]
      have now := sizeless.turned rotated
      have now' := sizeless'.turned rotated
      have ends := alike_notify (s.with (s.pixels.turned rotated)) (s'.with (s'.pixels.turned rotated))
        (now'.width.trans now.width.symm) (now'.height.trans now.height.symm) listener notified
      generalize notify t.p.buffer (s.with (s.pixels.turned rotated)) = r,
        notify t.p'.buffer (s'.with (s'.pixels.turned rotated)) = r' at ends
      cases ends with
      | threw => exact .threw trivial
      | returned related =>
        obtain ⟨pixels, pixels', notified, related⟩ := related
        refine .returned ⟨by rw [pixels]; exact now, by rw [pixels']; exact now', ?_, notified, related.begins⟩
        rw [pixels, pixels']
        show (s'.pixels.turned rotated).mRotated = (s.pixels.turned rotated).mRotated
        rw [PixelBuffer.turned, PixelBuffer.turned, if_neg same, if_neg turns]
    | false =>
      rw [setBufferRotation_refused _ same (by rw [sizeless.width, sizeless.height]; exact accepted),
        setBufferRotation_refused _ turns (by rw [sizeless'.width, sizeless'.height]; exact accepted)]
      exact .threw trivial

theorem alike_setSource {w : UInt32} (filled : w ≠ 0) (h : UInt32) :
    Alike.Calls (fun _ _ => True) t.Begun t.Both (setSource t.p.buffer w h true : DesktopM F Unit)
      (setSource t.p'.buffer w h true) := by
  intro s s' begun
  have forced : ∀ w' h' : UInt32, ¬(w = w' ∧ h = h' ∧ true = false) := fun _ _ known => Bool.noConfusion known.2.2
  rw [setSource_sizeless _ begun.sizeless (forced _ _) filled, setSource_sizeless _ begun.sizeless' (forced _ _) filled,
    begun.turned]
  show Alike.Endings _ _ (if t.p.setSizeAccepts (unscaled F w) (unscaled F h) then _ else _)
    (if t.p.setSizeAccepts (unscaled F w) (unscaled F h) then _ else _)
  split_ifs
  · have ends := alike_notify (s.with (.first s.pixels.mRotated w h)) (s'.with (.first s.pixels.mRotated w h)) rfl rfl
      begun.listener begun.notified
    generalize notify t.p.buffer (s.with (.first s.pixels.mRotated w h)) = r,
      notify t.p'.buffer (s'.with (.first s.pixels.mRotated w h)) = r' at ends
    cases ends with
    | threw => exact .threw trivial
    | returned related =>
      obtain ⟨pixels, pixels', notified, related⟩ := related
      exact .returned ⟨pixels'.trans pixels.symm, notified, related⟩
  · exact .threw trivial

end Twins

theorem stored_same (q : Queries) {d d' : Desktop} (same : SameProps d d') : stored q d' = stored q d := by
  rw [stored, stored, same.mLayerId, same.width, same.height, same.rotation]

section Start

variable {F : Type} [Floats F] {p : Platform}

/-- A start once the geometry is stored. -/
def announce (p : Platform) (mode : Size) (state : Rotation) : DesktopM F Unit := do
  setDisplayInfo p.buffer mode state true
  let b ← getPixels
  onDesktop (setPixelBuffer p b.width b.height)

theorem opened_both {q : Queries} {s : Buffered F Desktop} {mode : Size} {state : Rotation}
    (both : stored q s.listener = .both mode state) : opened p q s =
      match announce p mode state (s.showing mode state) with
      | .ok _ s' => some s'
      | .error _ _ => none := by
  have update := updateDisplayInfo_both (p := p) true both
  unfold opened start announce
  cases result : setDisplayInfo p.buffer mode state true (s.showing mode state) with
  | error u s' =>
    have failed : updateDisplayInfo p q true s = .error u s' := by
      rw [update]
      exact Outcomes.bind_error result
    rw [Outcomes.bind_error failed, Outcomes.bind_error result]
  | ok u s' =>
    have succeeded : updateDisplayInfo p q true s = .ok .noError s' := by
      rw [update, Outcomes.bind_ok result]
      rfl
    rw [Outcomes.bind_ok succeeded, Outcomes.bind_ok result]
    simp only
    rw [Outcomes.bind_ok (getPixels_apply s'), Outcomes.bind_ok (getPixels_apply s')]
    cases given : onDesktop (setPixelBuffer p s'.pixels.width s'.pixels.height) s' with
    | ok u s'' =>
      rw [Outcomes.bind_ok given]
      rfl
    | error u s'' => rw [Outcomes.bind_error given]

theorem opened_neither {q : Queries} {s : Buffered F Desktop}
    (neither : ∀ mode state, stored q s.listener ≠ .both mode state) : opened p q s = none := by
  unfold opened
  cases result : start p q s with
  | error => rfl
  | ok started s' =>
    cases started with
    | false => rfl
    | true =>
      obtain ⟨mode, state, _, both, _⟩ := start_returned result
      exact absurd both (neither mode state)

namespace Twins

variable {t : Twins}

theorem alike_announce {mode : Size} (positive : mode.Positive) (state : Rotation) :
    Alike.Calls (fun _ _ => True) t.Begun t.Both (announce t.p mode state : DesktopM F Unit)
      (announce t.p' mode state) := by
  unfold announce
  rw [setDisplayInfo_eq, setDisplayInfo_eq]
  have told := Alike.sequence (begun_setBufferRotation (F := F) (t := t) (isDisplayRotated state))
    fun _ => alike_setSource (orientedWidth_ne_zero positive state) (orientedHeight mode state)
  apply Alike.sequence told
  intro _
  apply Alike.forget
  exact Alike.sequence keeps_getPixels fun b => keeps_onDesktop (keeps_setPixelBuffer b.width b.height)

theorem begun_allocate {b b' : PixelBuffer F} (sizeless : Sizeless b) (sizeless' : Sizeless b')
    (turned : b'.mRotated = b.mRotated) {device device' : Input.Device} {d d' : Desktop} (same : SameProps d d')
    (numbered : t.Numbered d.callbacks d'.callbacks)
    (attends : Input.Attends t.p.sys t.sys t.earlier t.earlier' device device') (mode : Size) (state : Rotation) :
    t.Begun ((allocate b device d).showing mode state) ((allocate b' device' d').showing mode state) := by
  refine ⟨sizeless, sizeless', turned, rfl, d'.mVirtualDisplay, d'.mDisplayRect, d'.server, d'.callbacks, device', ?_,
    numbered, attends⟩
  obtain ⟨mLayerId, width, height, rotation, touch, relative⟩ := same
  simp only [allocate, Buffered.showing, Desktop.shows, mLayerId, width, height, rotation, touch, relative]

theorem alike_opened {q : Queries} (positive : q.Positive) {b b' : PixelBuffer F} (sizeless : Sizeless b)
    (sizeless' : Sizeless b') (turned : b'.mRotated = b.mRotated) {device device' : Input.Device} {d d' : Desktop}
    (same : SameProps d d') (numbered : t.Numbered d.callbacks d'.callbacks)
    (attends : Input.Attends t.p.sys t.sys t.earlier t.earlier' device device') :
    Option.Rel t.Both (opened t.p q (allocate b device d)) (opened t.p' q (allocate b' device' d')) := by
  have props : SameProps (allocate b device d).listener (allocate b' device' d').listener :=
    ⟨same.mLayerId, same.width, same.height, same.rotation, same.touch, same.relative⟩
  have stored' := stored_same q props
  by_cases neither : ∀ mode state, stored q (allocate b device d).listener ≠ .both mode state
  · rw [opened_neither neither, opened_neither (by rw [stored']; exact neither)]
    exact .none
  · simp only [not_forall, not_not] at neither
    obtain ⟨mode, state, both⟩ := neither
    have begun := begun_allocate (t := t) sizeless sizeless' turned same numbered attends mode state
    have ends := alike_announce (stored_positive positive both) state _ _ begun
    rw [opened_both both, opened_both (stored'.trans both)]
    generalize announce t.p mode state ((allocate b device d).showing mode state) = r,
      announce t.p' mode state ((allocate b' device' d').showing mode state) = r' at ends
    cases ends with
    | returned related => exact .some related
    | threw => exact .none

omit [Floats F] in
theorem since_eq {device device' : Input.Device} {s s' : Option (Buffered F Desktop)}
    (earlier : t.earlier = device.kernel.writes) (earlier' : t.earlier' = device'.kernel.writes)
    (alike : Option.Rel t.Both s s') : s.map (Buffered.since device) = s'.map (Buffered.since device') := by
  cases alike with
  | none => rfl
  | @some s s' both =>
    obtain ⟨pixels, notified, n, _, apart, _, userDev, kernel, rfl, matched⟩ := both
    obtain ⟨later, wrote, wrote'⟩ := matched.writes
    rw [Option.map_some, Option.map_some, Buffered.since, Buffered.since, sinceDevice, sinceDevice, pixels, notified,
      apart]
    show _ = some (Buffered.mk _ ((s.listener.beside _ _).beside 0 (Input.Device.beside _ {}
      { writes := kernel.writes.drop device'.kernel.writes.length })) _)
    rw [wrote, wrote', earlier, earlier', List.drop_left, List.drop_left]
    rfl

end Twins

theorem sessions_alike {p' : Platform} {q : Queries} (positive : q.Positive)
    {clientWidth clientHeight sourceWidth sourceHeight clientWidth' clientHeight' sourceWidth' sourceHeight' : UInt32}
    {device device' : Input.Device} (unopened : device.mFD = -1) (unopened' : device'.mFD = -1) {d d' : Desktop}
    (same : SameProps d d') (answers : AnsweredAlike p p' d d' device device') (run : List ClientEvent) :
    (session p q (.constructed clientWidth clientHeight sourceWidth sourceHeight : PixelBuffer F) device d run).map
        (Buffered.since device) =
      (session p' q (.constructed clientWidth' clientHeight' sourceWidth' sourceHeight') device' d' run).map
        (Buffered.since device') := by
  obtain ⟨sys, setSizeAccepts, setPixelBufferReturns, setScreenLayoutReturns, displayProps⟩ := p'
  obtain ⟨rfl, rfl, rfl, props, openFd, ioctlOk, writeOk⟩ := answers
  let t : Twins := ⟨p, sys, displayProps, device.kernel.writes, device'.kernel.writes⟩
  have attends : Input.Attends t.p.sys t.sys t.earlier t.earlier' device device' :=
    ⟨unopened'.trans unopened.symm, openFd, ioctlOk, writeOk, [], (List.append_nil _).symm, (List.append_nil _).symm⟩
  have begun := Twins.alike_opened (F := F) (t := t) positive
    (sizeless_constructed clientWidth clientHeight sourceWidth sourceHeight)
    (sizeless_constructed clientWidth' clientHeight' sourceWidth' sourceHeight') rfl same ⟨props⟩ attends
  exact Twins.since_eq (t := t) rfl rfl (Twins.alike_run begun run)

end Start

/-- What a session leaves to the next: its client had made the window wide. -/
def leftBehind : Desktop :=
  (Outcomes.after (stop .working) (Outcomes.after (setScreenLayout .working 2000 960) startedUpright)).listener

/-- The device of the next session, whose constructor sets nothing but the descriptor. -/
def reborn : Input.Device := { leftBehind.mInputDevice with mOpened := true }

theorem sessions_alike_after_stop :
    (session .working (portrait .rotation90) (.constructed 7 7 7 7 : PixelBuffer Single) reborn leftBehind
        (pointAt 300 200)).map (Buffered.since reborn) =
      (session .working (portrait .rotation90) (.constructed 0 0 0 0) .closed
        { mLayerId := 0, mInputDevice := .closed } (pointAt 300 200)).map (Buffered.since .closed) := by
  have unopened : reborn.mFD = -1 := by decide +kernel
  have same : SameProps leftBehind { mLayerId := 0, mInputDevice := .closed } :=
    ⟨by decide +kernel, by decide +kernel, by decide +kernel, by decide +kernel, by decide +kernel,
      by decide +kernel⟩
  have answers : AnsweredAlike .working .working leftBehind { mLayerId := 0, mInputDevice := .closed } reborn .closed :=
    ⟨rfl, rfl, rfl, fun _ => rfl, fun _ => rfl, fun _ => rfl, fun _ => rfl⟩
  exact sessions_alike (portrait_positive .rotation90) unopened rfl same answers _

end VncFlinger.Display
