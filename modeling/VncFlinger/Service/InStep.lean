import VncFlinger.Display.Sizes
import VncFlinger.Service.Surfaces

/-!
# Both sides in step

The size of a session is kept four times: in the service's settings, in Java's virtual display, in the
properties of the native desktop and in the source of the pixel buffer. A command changes the first three
and so does a client that asks for a layout, through a callback. The server loop brings the fourth after.
-/

namespace VncFlinger.Display

def Desktop.displayProps (d : Desktop) : DisplayProps :=
  ⟨d.width, d.height, d.rotation, d.mLayerId, d.touch, d.relative⟩

variable {F : Type} {p : Platform} {P : DisplayProps → Prop}

/-- Each callback sets properties with `P`, if it sets any. -/
def Platform.Sets (p : Platform) (P : DisplayProps → Prop) : Prop := ∀ n, ∀ props ∈ p.displayProps n, P props

theorem callback_props (p : Platform) (d : Desktop) : (Outcomes.after (runJniCallback p) d).displayProps =
    (p.displayProps d.callbacks).getD d.displayProps := by
  rw [runJniCallback, Outcomes.after, Outcomes.modify_apply]
  cases p.displayProps d.callbacks with
  | none => rfl
  | some props => rfl

theorem props_callback (sets : p.Sets P) :
    Outcomes.Keeps (fun d : Desktop => P d.displayProps) (runJniCallback p) := by
  intro d holds
  show P (Outcomes.after (runJniCallback p) d).displayProps
  rw [callback_props]
  cases set : p.displayProps d.callbacks with
  | none => exact holds
  | some props => exact sets d.callbacks props set

theorem props_serverSetScreenLayout (w h : UInt32) :
    Outcomes.Keeps (fun d : Desktop => P d.displayProps) (serverSetScreenLayout p w h) := by
  intro d holds
  unfold serverSetScreenLayout
  split
  · exact holds
  · exact holds

theorem keeps_onDesktop {I : Desktop → Prop} {α : Type} {x : ListenerM α} (keeps : Outcomes.Keeps I x) :
    Outcomes.Keeps (fun s : Buffered F Desktop => I s.listener) (onDesktop x) := by
  intro s holds
  have kept := keeps s.listener holds
  cases result : x s.listener with
  | ok a d =>
    have run : onDesktop x s = .ok a { s with listener := d } := by rw [onDesktop, result]
    rw [Outcomes.after_ok result] at kept
    rw [Outcomes.after_ok run]
    exact kept
  | error e d =>
    have run : onDesktop x s = .error e { s with listener := d } := by rw [onDesktop, result]
    rw [Outcomes.after_error result] at kept
    rw [Outcomes.after_error run]
    exact kept

variable [Floats F]

theorem hears_props (sets : p.Sets P) :
    Hears (p.buffer : BufferEnv F Desktop) (fun d => P d.displayProps) fun _ _ _ => True := by
  intro b d holds _
  obtain ⟨server, told⟩ := told_served (p := p) b d
  rw [told]
  exact ⟨props_callback sets { d with mVirtualDisplay := some (newDisplay b d) } holds, trivial⟩

theorem props_updateDisplayInfo (sets : p.Sets P) (q : Queries) (force : Bool) :
    Outcomes.Keeps (fun s : Buffered F Desktop => P s.listener.displayProps) (updateDisplayInfo p q force) := by
  intro s holds
  cases outcome : stored q s.listener with
  | nothing =>
    obtain ⟨status, _, run⟩ := updateDisplayInfo_nothing (p := p) force outcome
    rw [Outcomes.after_ok run]
    exact holds
  | modeOnly mode =>
    rw [Outcomes.after_ok (updateDisplayInfo_modeOnly force outcome)]
    exact holds
  | both mode state =>
    have told : Outcomes.Keeps (fun s : Buffered F Desktop => P s.listener.displayProps)
        (setDisplayInfo p.buffer mode state force) :=
      fun s holds => (informs_setDisplayInfo (hears_props sets) mode state force s holds).1
    have whole := Outcomes.keeps_bind told fun _ => Outcomes.keeps_pure UpdateStatus.noError
    rw [Outcomes.after_congr (updateDisplayInfo_both force outcome)]
    exact whole (s.showing mode state) holds

theorem props_setScreenLayout (sets : p.Sets P) (reqWidth reqHeight : Int32) :
    Outcomes.Keeps (fun s : Buffered F Desktop => P s.listener.displayProps)
      (setScreenLayout p reqWidth reqHeight) := by
  unfold setScreenLayout
  refine Outcomes.keeps_bind Outcomes.keeps_get fun s => ?_
  dsimp only
  split
  · exact Outcomes.keeps_bind (keeps_onDesktop (props_callback sets)) fun _ => Outcomes.keeps_pure false
  · split
    · exact Outcomes.keeps_pure false
    · split
      · refine Outcomes.keeps_bind ?_ fun _ => ?_
        · exact fun s holds => (informs_setWindowSize (hears_props sets) _ _ s holds).1
        refine Outcomes.keeps_bind (fun s holds => holds) fun b => ?_
        exact Outcomes.keeps_bind (keeps_onDesktop (props_serverSetScreenLayout _ _)) fun _ =>
          Outcomes.keeps_pure true
      · exact Outcomes.keeps_pure false

theorem layout_virtual {s : Buffered F Desktop} (virtual : s.listener.mLayerId < 0) (reqWidth reqHeight : Int32) :
    Outcomes.after (setScreenLayout p reqWidth reqHeight) s =
      { s with listener := Outcomes.after (runJniCallback p) s.listener } := by
  have run : setScreenLayout p reqWidth reqHeight s =
      .ok false { s with listener := Outcomes.after (runJniCallback p) s.listener } := by
    rw [setScreenLayout, Outcomes.bind_ok (Outcomes.get_apply s)]
    exact congrFun (if_pos virtual) s
  exact Outcomes.after_ok run

theorem props_start (sets : p.Sets P) {q : Queries} {s s' : Buffered F Desktop} (ok : start p q s = .ok true s')
    (holds : P s.listener.displayProps) : P s'.listener.displayProps := by
  obtain ⟨mode, state, middle, _, info, rfl⟩ := start_returned ok
  have kept := (informs_setDisplayInfo (hears_props sets) mode state true (s.showing mode state) holds).1
  rw [Outcomes.after_ok info] at kept
  exact kept

theorem stored_mirrored {q : Queries} {d : Desktop} (mirrored : d.mLayerId = 0) {mode : Size} {state : Rotation}
    (both : stored q d = .both mode state) : q.activeDisplayMode = some mode := by
  rw [stored, if_pos mirrored] at both
  split at both
  · rename_i known _
    cases both
    exact known
  · cases both
  · cases both

theorem stored_virtual {q : Queries} {d : Desktop} (virtual : d.mLayerId ≠ 0) {mode : Size} {state : Rotation}
    (both : stored q d = .both mode state) : mode = ⟨d.width, d.height⟩ := by
  rw [stored, if_neg virtual] at both
  split at both
  · cases both
    rfl
  · cases both

/-- A successful update has brought the mode to the source of the buffer. -/
theorem update_succeeded {q : Queries} {force : Bool} {s s' : Buffered F Desktop}
    (ok : updateDisplayInfo p q force s = .ok .noError s') :
    ∃ mode state, stored q s.listener = .both mode state ∧
      s'.listener.mDisplayMode = mode ∧ s'.listener.mDisplayState = state ∧
      s'.pixels.mSourceWidth = orientedWidth mode state ∧ s'.pixels.mSourceHeight = orientedHeight mode state := by
  cases outcome : stored q s.listener with
  | nothing =>
    obtain ⟨status, failed, run⟩ := updateDisplayInfo_nothing (p := p) force outcome
    rw [run] at ok
    cases ok
    exact absurd rfl failed
  | modeOnly mode =>
    rw [updateDisplayInfo_modeOnly force outcome] at ok
    cases ok
  | both mode state =>
    rw [updateDisplayInfo_both force outcome] at ok
    obtain ⟨_, _, info, final⟩ := Outcomes.bind_returns ok
    cases final
    have hears : Hears (p.buffer : BufferEnv F Desktop) (fun d => d.mDisplayMode = mode ∧ d.mDisplayState = state)
        fun _ _ _ => True := by
      intro b d shown _
      obtain ⟨server, told⟩ := told_served (p := p) b d
      rw [told]
      exact ⟨⟨(rebuilt_mode p b d).trans shown.1, (rebuilt_state p b d).trans shown.2⟩, trivial⟩
    have shown := (informs_setDisplayInfo hears mode state force (s.showing mode state) ⟨rfl, rfl⟩).1
    rw [Outcomes.after_ok info] at shown
    refine ⟨mode, state, rfl, shown.1, shown.2, ?_⟩
    rw [setDisplayInfo_returned info, PixelBuffer.reported]
    split
    · rename_i known
      exact ⟨known.1.symm, known.2.1.symm⟩
    · exact ⟨rfl, rfl⟩

end VncFlinger.Display

namespace VncFlinger.Service

open Display (Buffered Desktop DisplayProps Floats Platform Queries Single)

variable {F : Type} [Floats F]

/-- The size that Java's display is given. -/
def Effect.size : Effect → Option (Int32 × Int32)
  | .createVirtualDisplay _ width height _ => some (width, height)
  | .resize _ width height _ => some (width, height)
  | _ => none

def lastSize (effects : List Effect) : Option (Int32 × Int32) := effects.reverse.findSome? Effect.size

def lastProps (effects : List Effect) : Option DisplayProps := effects.reverse.findSome? Effect.displayProps

def Fields.since (s' s : Fields) : List Effect := s'.effects.drop s.effects.length

/-- The arguments of `setDisplayProps`, for a display that is turned so. -/
def Fields.displayProps (s : Fields) (rotation : Int32) : DisplayProps :=
  if s.mMirrorInternal then ⟨-1, -1, -1, 0, s.mEmulateTouch, s.mUseRelativeInput⟩
  else ⟨s.mWidth, s.mHeight, rotation, -1, s.mEmulateTouch, s.mUseRelativeInput⟩

/-- The service, and the desktop of its session. -/
structure Sides (F : Type) where
  service : Fields
  native : Buffered F Desktop

inductive SidesEvent where
  | command (intent : Intent)
  | resize (reqWidth reqHeight : Int32)
  | update (q : Queries)

def Sides.hear (s : Sides F) (service : Fields) : Sides F :=
  { service := service
    native :=
      match lastProps (service.since s.service) with
      | some props => { s.native with listener := Display.setDisplayProps props s.native.listener }
      | none => s.native }

def Outside.telling (out : Outside) (effects : List Effect) : Platform :=
  { out.platform with displayProps := fun _ => lastProps effects }

/-- A restart ends the session, and so does an exception of Java or one that leaves the server loop. One
that leaves `setScreenLayout` closes a connection. The callback of a new display only sets properties. -/
def sidesStep (out : Outside) : Option (Sides F) → SidesEvent → Option (Sides F)
  | none, _ => none
  | some s, .command intent =>
    match receive out.android intent s.service with
    | .ok false service => some (s.hear service)
    | _ => none
  | some s, .resize reqWidth reqHeight =>
    if s.native.listener.mLayerId < 0 then
      match onResizeDisplay out.android reqWidth reqHeight s.service with
      | .ok _ service => some
        { service := service
          native := Outcomes.after (Display.setScreenLayout (out.telling (service.since s.service))
            reqWidth reqHeight) s.native }
      | .error _ _ => none
    else some
      { s with
        native := Outcomes.after (Display.setScreenLayout (out.calling s.service) reqWidth reqHeight) s.native }
  | some s, .update q =>
    match Display.updateDisplayInfo (out.calling s.service) q false s.native with
    | .ok _ native => some { s with native := native }
    | .error _ _ => none

/-- The service's settings are those the native side has, and the size is that of Java's display. -/
structure Agree (s : Fields) (props : DisplayProps) : Prop where
  native : ∃ rotation, props = s.displayProps rotation
  display : s.mMirrorInternal = false → lastSize s.effects = some (s.mWidth, s.mHeight)

def Sides.InStep (s : Sides F) : Prop := Agree s.service s.native.listener.displayProps

variable {out : Outside} {s s' s'' : Fields} {effects : List Effect}

theorem props_mirroring (mirroring : s.mMirrorInternal = true) (rotation : Int32) :
    s.displayProps rotation = ⟨-1, -1, -1, 0, s.mEmulateTouch, s.mUseRelativeInput⟩ :=
  if_pos mirroring

theorem props_extended (extended : s.mMirrorInternal = false) (rotation : Int32) :
    s.displayProps rotation = ⟨s.mWidth, s.mHeight, rotation, -1, s.mEmulateTouch, s.mUseRelativeInput⟩ :=
  if_neg (Bool.eq_false_iff.mp extended)

theorem lastProps_append (first second : List Effect) :
    lastProps (first ++ second) = (lastProps second).or (lastProps first) := by
  rw [lastProps, List.reverse_append, List.findSome?_append]
  rfl

theorem lastSize_append (first second : List Effect) :
    lastSize (first ++ second) = (lastSize second).or (lastSize first) := by
  rw [lastSize, List.reverse_append, List.findSome?_append]
  rfl

/-- A method that performs the effects keeps the agreement with whoever hears of them. -/
structure Tells (s s' : Fields) (effects : List Effect) : Prop where
  performed : s'.effects = s.effects ++ effects
  agree : ∀ props, Agree s props → Agree s' ((lastProps effects).getD props)

theorem Tells.since (tells : Tells s s' effects) : s'.since s = effects := by
  rw [Fields.since, tells.performed, List.drop_left]

theorem Tells.trans {first second : List Effect} (tells : Tells s s' first) (tells' : Tells s' s'' second) :
    Tells s s'' (first ++ second) := by
  refine ⟨by rw [tells'.performed, tells.performed, List.append_assoc], fun props agree => ?_⟩
  have agree' := tells'.agree _ (tells.agree props agree)
  rw [lastProps_append]
  cases second' : lastProps second with
  | none =>
    rw [second'] at agree'
    exact agree'
  | some props' =>
    rw [second'] at agree'
    exact agree'

/-- Effects that neither set properties nor give a size, for settings that keep the display. -/
theorem tells_apart (performed : s'.effects = s.effects ++ effects)
    (same : ∀ rotation, s'.displayProps rotation = s.displayProps rotation)
    (size : s'.mMirrorInternal = s.mMirrorInternal ∧ s'.mWidth = s.mWidth ∧ s'.mHeight = s.mHeight)
    (noProps : lastProps effects = none) (noSize : lastSize effects = none) : Tells s s' effects := by
  refine ⟨performed, fun props agree => ?_⟩
  obtain ⟨rotation, native⟩ := agree.native
  rw [noProps]
  refine ⟨⟨rotation, native.trans (same rotation).symm⟩, fun extended => ?_⟩
  rw [performed, lastSize_append, noSize, size.2.1, size.2.2]
  exact agree.display (size.1.symm.trans extended)

/-! ### The methods of the service -/

variable {android : Android}

def tell (props : DisplayProps) : Effect :=
  .setDisplayProps props.w props.h props.rotation props.layerId props.touch props.relative

theorem doSetDisplayProps_returns (ok : doSetDisplayProps android s = .ok () s') :
    (s.mMirrorInternal = false → s.mDisplay ≠ none) ∧ ∃ rotation, s' = s.emit [tell (s.displayProps rotation)] := by
  rw [doSetDisplayProps, Outcomes.bind_ok (Outcomes.get_apply s)] at ok
  split at ok
  · rename_i mirroring
    cases ok
    refine ⟨fun extended => absurd mirroring (Bool.eq_false_iff.mp extended), 0, ?_⟩
    rw [props_mirroring mirroring]
    rfl
  · rename_i extended
    obtain ⟨display, middle, held, final⟩ := Outcomes.bind_returns ok
    cases final
    cases display' : s.mDisplay with
    | none =>
      rw [display'] at held
      cases held
    | some display' =>
      rw [display'] at held
      cases held
      refine ⟨fun _ => Option.some_ne_none display, android.getRotation display * 90, ?_⟩
      rw [props_extended (Bool.eq_false_iff.mpr extended)]
      rfl

theorem resizeDisplay_returns {width height dpi : Int32}
    (ok : resizeDisplay android width height dpi s = .ok () s') :
    ∃ display, s' = s.emit [.resize display width height dpi] := by
  rw [resizeDisplay_apply] at ok
  split at ok
  · cases ok
  · split at ok
    · cases ok
      exact ⟨_, rfl⟩
    · cases ok

theorem tells_clipped (s : Fields) (support : Bool) : Tells s (s.clipped support) (clipboardEffects s support) := by
  refine tells_apart rfl (fun _ => rfl) ⟨rfl, rfl, rfl⟩ ?_ ?_
  · unfold clipboardEffects
    split
    · rfl
    · split <;> rfl
  · unfold clipboardEffects
    split
    · rfl
    · split <;> rfl

theorem tells_changeDPI {dpi : Int32} (ok : changeDPI android dpi s = .ok () s') :
    ∃ effects, Tells s s' effects := by
  obtain ⟨_, display, rfl⟩ := changeDPI_returns ok
  refine ⟨[.resize display s.mWidth s.mHeight dpi], rfl, fun props agree => ⟨agree.native, fun _ => ?_⟩⟩
  exact lastSize_append s.effects [.resize display s.mWidth s.mHeight dpi]

/-- A resize gives the new size to the display first, and then to the native side. -/
theorem tells_resizeResolution {width height dpi : Int32}
    (ok : resizeResolution android width height dpi s = .ok () s') : ∃ effects, Tells s s' effects := by
  rw [resizeResolution_eq] at ok
  obtain ⟨_, middle, resized, told⟩ := Outcomes.bind_returns ok
  obtain ⟨display, rfl⟩ := resizeDisplay_returns resized
  obtain ⟨_, rotation, rfl⟩ := doSetDisplayProps_returns told
  rw [emit_emit]
  refine ⟨_, rfl, fun props agree => ⟨⟨rotation, rfl⟩, fun extended => ?_⟩⟩
  exact lastSize_append s.effects [.resize display width height (keptDPI s.mDPI dpi), tell _]

theorem tells_onResizeDisplay {width height : Int32} (ok : onResizeDisplay android width height s = .ok () s') :
    ∃ effects, Tells s s' effects := by
  rw [onResizeDisplay, Outcomes.bind_ok (Outcomes.get_apply s)] at ok
  split at ok
  · cases ok
    exact ⟨[], tells_apart (List.append_nil _).symm (fun _ => rfl) ⟨rfl, rfl, rfl⟩ rfl rfl⟩
  · exact tells_resizeResolution ok

theorem tells_receive {intent : Intent} (ok : receive android intent s = .ok false s') :
    ∃ effects, Tells s s' effects := by
  have running := (received_inPlace ok).1
  rw [receive_running running] at ok
  have clipped := tells_clipped s (intent.merge s.toSettings).mSupportClipboard
  cases changed : restarts s.toSettings (intent.merge s.toSettings) with
  | true =>
    rw [receiveRunning_restart changed] at ok
    cases ok
  | false =>
    by_cases size : sameSize s.toSettings (intent.merge s.toSettings)
    · by_cases dpi : (intent.merge s.toSettings).mDPI = s.mDPI
      · rw [receiveRunning_same changed size dpi] at ok
        cases ok
        exact ⟨_, clipped⟩
      · rw [receiveRunning_dpi changed size dpi] at ok
        obtain ⟨_, _, resized, final⟩ := Outcomes.bind_returns ok
        cases final
        obtain ⟨effects, tells⟩ := tells_changeDPI resized
        exact ⟨_, clipped.trans tells⟩
    · rw [receiveRunning_size changed size] at ok
      obtain ⟨_, _, resized, final⟩ := Outcomes.bind_returns ok
      cases final
      obtain ⟨effects, tells⟩ := tells_resizeResolution resized
      exact ⟨_, clipped.trans tells⟩

theorem called_extended {bare : Fields} (extended : bare.mMirrorInternal = false) (quiet : bare.effects = []) :
    (Outcomes.after (onNewSurfaceAvailable out.android) bare).effects.findSome? Effect.displayProps =
      bare.mDisplay.map fun display => bare.displayProps (out.android.getRotation display * 90) := by
  simp only [props_extended extended]
  cases held : bare.mDisplay with
  | none =>
    rw [Outcomes.after_error (onNewSurfaceAvailable_null extended held), quiet]
    rfl
  | some display =>
    rw [Outcomes.after_ok (onNewSurfaceAvailable_display extended held), Fields.emit, quiet]
    rfl

theorem displayProps_extended {service : Fields} (extended : service.mMirrorInternal = false) :
    out.displayProps service =
      service.mDisplay.map fun display => service.displayProps (out.android.getRotation display * 90) :=
  @called_extended out { service with effects := [] } extended rfl

theorem calling_sets (out : Outside) (service : Fields) :
    (out.calling service).Sets fun props => ∃ rotation, props = service.displayProps rotation := by
  intro n props set
  have set : out.displayProps service = some props := set
  cases mirroring : service.mMirrorInternal with
  | true =>
    rw [displayProps_mirroring mirroring] at set
    cases set
    exact ⟨0, (props_mirroring mirroring 0).symm⟩
  | false =>
    rw [displayProps_extended mirroring, Option.map_eq_some_iff] at set
    obtain ⟨display, _, rfl⟩ := set
    exact ⟨_, rfl⟩

/-! ### One event -/

omit [Floats F] in
theorem hear_inStep {s : Sides F} (inStep : s.InStep) {service : Fields} (tells : Tells s.service service effects) :
    (s.hear service).InStep := by
  have agree := tells.agree _ inStep
  unfold Sides.hear Sides.InStep
  rw [tells.since]
  cases last : lastProps effects with
  | none =>
    rw [last] at agree
    exact agree
  | some props =>
    rw [last] at agree
    exact agree

theorem resized_inStep {s : Sides F} (inStep : s.InStep) (reqWidth reqHeight : Int32) :
    ∀ s' ∈ sidesStep out (some s) (.resize reqWidth reqHeight), s'.InStep := by
  intro s' member
  rw [sidesStep] at member
  split at member
  · rename_i virtual
    cases result : onResizeDisplay out.android reqWidth reqHeight s.service with
    | error e service =>
      rw [result] at member
      cases member
    | ok u service =>
      rw [result] at member
      cases member
      obtain ⟨effects, tells⟩ := tells_onResizeDisplay result
      have agree := tells.agree _ inStep
      unfold Sides.InStep
      rw [tells.since, Display.layout_virtual virtual]
      have told := Display.callback_props (out.telling effects) s.native.listener
      have told : _ = (lastProps effects).getD s.native.listener.displayProps := told
      rw [← told] at agree
      exact agree
  · cases member
    have kept := Display.props_setScreenLayout (F := F) (calling_sets out s.service) reqWidth reqHeight
    exact ⟨kept s.native inStep.native, inStep.display⟩

theorem commanded_inStep {s : Sides F} (inStep : s.InStep) (intent : Intent) :
    ∀ s' ∈ sidesStep out (some s) (.command intent), s'.InStep := by
  intro s' member
  rw [sidesStep] at member
  split at member
  · rename_i service received
    cases member
    obtain ⟨effects, tells⟩ := tells_receive received
    exact hear_inStep inStep tells
  · cases member

theorem updated_inStep {s : Sides F} (inStep : s.InStep) (q : Queries) :
    ∀ s' ∈ sidesStep out (some s) (.update q), s'.InStep := by
  intro s' member
  rw [sidesStep] at member
  have kept := Display.props_updateDisplayInfo (calling_sets out s.service) q false s.native inStep.native
  split at member
  · rename_i status native updated
    cases member
    rw [Outcomes.after_ok updated] at kept
    exact ⟨kept, inStep.display⟩
  · cases member

/-- A successful update has brought the mode of the mirrored display, or the size of Java's, to the buffer. -/
structure Brought (q : Queries) (service : Fields) (native : Buffered F Desktop) : Prop where
  source : native.pixels.mSourceWidth =
      Display.orientedWidth native.listener.mDisplayMode native.listener.mDisplayState ∧
    native.pixels.mSourceHeight =
      Display.orientedHeight native.listener.mDisplayMode native.listener.mDisplayState
  mirrored : service.mMirrorInternal = true → q.activeDisplayMode = some native.listener.mDisplayMode
  extended : service.mMirrorInternal = false →
    lastSize service.effects = some (native.listener.mDisplayMode.width, native.listener.mDisplayMode.height)

theorem update_brought {s : Sides F} (inStep : s.InStep) {q : Queries} {native : Buffered F Desktop}
    (ok : Display.updateDisplayInfo (out.calling s.service) q false s.native = .ok .noError native) :
    Brought q s.service native := by
  obtain ⟨mode, state, both, shown, turned, source⟩ := Display.update_succeeded ok
  obtain ⟨rotation, props⟩ := inStep.native
  refine ⟨by rw [shown, turned]; exact source, fun mirroring => ?_, fun extended => ?_⟩
  · rw [props_mirroring mirroring] at props
    have layer : s.native.listener.mLayerId = 0 := congrArg DisplayProps.layerId props
    rw [shown]
    exact Display.stored_mirrored layer both
  · rw [props_extended extended] at props
    have layer : s.native.listener.mLayerId = -1 := congrArg DisplayProps.layerId props
    have width : s.native.listener.width = s.service.mWidth := congrArg DisplayProps.w props
    have height : s.native.listener.height = s.service.mHeight := congrArg DisplayProps.h props
    rw [shown, Display.stored_virtual (by rw [layer]; decide) both, width, height]
    exact inStep.display extended

/-! ### A session -/

def Sides.fresh (service : Fields) (pixels : Display.PixelBuffer F) (device : Input.Device) : Sides F :=
  ⟨service, Display.allocate pixels device { mInputDevice := device }⟩

/-- A command that acquires, the new thread up to `startService`, and the start of the desktop. -/
def begun (out : Outside) (intent : Intent) (q : Queries) (pixels : Display.PixelBuffer F)
    (device : Input.Device) (s : Fields) : Option (Sides F) :=
  match receive out.android intent s with
  | .ok true configured =>
    match acquire out.android configured with
    | .ok _ acquired =>
      match doSetDisplayProps out.android acquired with
      | .ok _ service =>
        let told := (Sides.fresh acquired pixels device).hear service
        match Display.start (out.calling service) q told.native with
        | .ok true native => some { told with native := native }
        | _ => none
      | .error _ _ => none
    | .error _ _ => none
  | _ => none

theorem acquired_size (extended : (s.acquired android).mMirrorInternal = false)
    (held : (s.acquired android).mDisplay ≠ none) :
    lastSize (s.acquired android).effects = some ((s.acquired android).mWidth, (s.acquired android).mHeight) := by
  have settings := acquired_settings s android
  have extended : s.mMirrorInternal = false := (congrArg Settings.mMirrorInternal settings).symm.trans extended
  have noSize : ∀ s : Fields, lastSize (startEffects s) = none := by
    intro s
    unfold startEffects
    cases s.mSupportClipboard <;> cases s.mHasAudio <;> cases s.mRemoteCursor <;> rfl
  have shown : lastSize (s.shown android).effects = some (s.mWidth, s.mHeight) := by
    have held : (s.shown android).mDisplay ≠ none := held
    unfold Fields.shown at held ⊢
    rw [if_neg (Bool.eq_false_iff.mp extended)] at held ⊢
    cases creation : android.createVirtualDisplay s.displays s.mWidth s.mHeight s.mDPI with
    | display => exact lastSize_append s.effects _
    | null =>
      rw [creation] at held
      exact absurd rfl held
    | throws =>
      rw [creation] at held
      exact absurd rfl held
  have size : (s.acquired android).mWidth = s.mWidth ∧ (s.acquired android).mHeight = s.mHeight :=
    ⟨congrArg Settings.mWidth settings, congrArg Settings.mHeight settings⟩
  rw [size.1, size.2]
  show lastSize ((s.shown android).effects ++ startEffects (s.shown android) ++ [.startForeground]) = _
  rw [lastSize_append, lastSize_append, noSize, shown]
  rfl

omit [Floats F] in
theorem heard_tell (s : Sides F) (rotation : Int32) :
    (s.hear (s.service.emit [tell (s.service.displayProps rotation)])).native.listener.displayProps =
      s.service.displayProps rotation := by
  have since : (s.service.emit [tell (s.service.displayProps rotation)]).since s.service =
      [tell (s.service.displayProps rotation)] := List.drop_left
  rw [Sides.hear, since]
  rfl

theorem begun_inStep {intent : Intent} {q : Queries} {pixels : Display.PixelBuffer F} {device : Input.Device} :
    ∀ sides ∈ begun out intent q pixels device s, sides.InStep := by
  intro sides member
  unfold begun at member
  split at member
  · rename_i configured received
    split at member
    · rename_i u acquired acquires
      obtain ⟨_, rfl⟩ := acquire_returns acquires
      split at member
      · rename_i u' service told
        obtain ⟨held, rotation, rfl⟩ := doSetDisplayProps_returns told
        have heard := heard_tell (Sides.fresh (configured.acquired out.android) pixels device) rotation
        simp only at member
        split at member
        · rename_i native started
          cases member
          have kept := Display.props_start (calling_sets out _) started ⟨rotation, heard⟩
          refine ⟨kept, fun extended => ?_⟩
          have size := acquired_size (by exact extended) (held extended)
          exact (lastSize_append _ _).trans size
        · cases member
      · cases member
    · cases member
  · cases member

/-- After an event both sides are in step, and a successful update has brought the size on. -/
structure InStepAfter (out : Outside) (before : Option (Sides F)) (event : SidesEvent) : Prop where
  inStep : ∀ s ∈ sidesStep out before event, s.InStep
  brought : ∀ s ∈ before, ∀ q, event = .update q → ∀ native,
    Display.updateDisplayInfo (out.calling s.service) q false s.native = .ok .noError native →
      Brought q s.service native

example : ([.resize 1600 900, .update ⟨true, none, none⟩].foldl (sidesStep .calm)
    (begun .calm { allowResize := some true } ⟨true, none, none⟩ (.constructed 0 0 0 0 : Display.PixelBuffer Single) .closed {})).map
      (fun s => (s.native.pixels.mSourceWidth, s.native.pixels.mSourceHeight)) = some (1600, 900) := by
  decide +kernel

end VncFlinger.Service
