import VncFlinger.Display.Consumers
import VncFlinger.Service.Command

/-!
# Who composes into a virtual display

Each size of the pixel buffer gets a new virtual display with a buffer queue of its own. The
constructor decides by the layer id whether a display of SurfaceFlinger composes into the queue. The
Java callback that follows decides by the service's settings whether the service's display does.
-/

namespace VncFlinger.Service

open Display (Desktop DisplayProps Floats Platform PixelBuffer Queries Single VirtualDisplay newDisplay)

variable {F : Type} [Floats F]

inductive Composer where
  | surfaceFlinger
  | java (display : Nat)
  deriving DecidableEq, Repr

/-- A buffer queue, with the desktop's layer id when its virtual display was created. -/
structure BufferQueue where
  mLayerId : Int32
  composers : List Composer
  deriving DecidableEq, Repr

/-- The native desktop, the Java service, and the buffer queues so far, the latest first. -/
structure Host where
  desktop : Desktop
  service : Fields
  queues : List BufferQueue := []

/-- What is outside both sides. `setSurfaceReturns` says which Java displays take a surface. -/
structure Outside where
  platform : Platform
  android : Android
  setSurfaceReturns : Nat → Bool

/-- The result is the display that `setSurface` is called on. -/
def onNewSurfaceAvailable (android : Android) : ServiceM (Option Nat) := do
  doSetDisplayProps android
  let s ← get
  if s.mMirrorInternal then return none
  else return s.mDisplay

def getSurface (d : Desktop) : Option VirtualDisplay := d.mVirtualDisplay

/-- The constructor calls `setDisplaySurface` where it calls `setDisplayProjection`. -/
def setDisplaySurface (vd : VirtualDisplay) : List Composer :=
  if vd.projection.isSome then [.surfaceFlinger] else []

/-- A `NullPointerException` of `setSurface` is caught. -/
def Outside.setSurface (out : Outside) (d : Desktop) (service : Fields) : List Composer :=
  match onNewSurfaceAvailable out.android service with
  | .ok (some display) _ =>
    if (getSurface d).isSome && out.setSurfaceReturns display then [.java display] else []
  | _ => []

def Effect.displayProps : Effect → Option DisplayProps
  | .setDisplayProps width height rotation layerId touch relative =>
    some ⟨width, height, rotation, layerId, touch, relative⟩
  | _ => none

/-- What the callback sets, if it gets that far. -/
def Outside.displayProps (out : Outside) (service : Fields) : Option DisplayProps :=
  (Outcomes.after (onNewSurfaceAvailable out.android) { service with effects := [] }).effects.findSome?
    Effect.displayProps

def Outside.calling (out : Outside) (service : Fields) : Platform :=
  { out.platform with displayProps := fun _ => out.displayProps service }

inductive HostEvent (F : Type) where
  | setDisplayProps (props : DisplayProps)
  | service (service : Fields)
  | update (q : Queries)
  | bufferDimensionsChanged (pixels : PixelBuffer F)

def Host.shown (h : Host) (pixels : PixelBuffer F) : Desktop :=
  { h.desktop with mVirtualDisplay := some (newDisplay pixels h.desktop) }

def Host.created (out : Outside) (h : Host) (pixels : PixelBuffer F) : BufferQueue :=
  { mLayerId := h.desktop.mLayerId
    composers := setDisplaySurface (newDisplay pixels h.desktop) ++ out.setSurface (h.shown pixels) h.service }

/-- The settings of the service change at any time, and so do the native display properties. -/
def hostStep (out : Outside) (h : Host) : HostEvent F → Host
  | .setDisplayProps props => { h with desktop := Display.setDisplayProps props h.desktop }
  | .service service => { h with service := service }
  | .update q => { h with desktop := Outcomes.after (Display.storeDisplayInfo q) h.desktop }
  | .bufferDimensionsChanged pixels =>
    { h with
      desktop := Outcomes.after (Display.onBufferDimensionsChanged (out.calling h.service) pixels
        pixels.width pixels.height) h.desktop
      queues := h.created out pixels :: h.queues }

/-- One display composes into the queue: SurfaceFlinger's where the layer id was not negative, and
Java's where it was. -/
structure ComposedOnce (queue : BufferQueue) : Prop where
  surfaceFlinger : .surfaceFlinger ∈ queue.composers ↔ 0 ≤ queue.mLayerId
  java : (∃ display, .java display ∈ queue.composers) ↔ queue.mLayerId < 0
  once : queue.composers.length = 1

def TakesNoSurface (out : Outside) (service : Fields) : Prop :=
  service.mMirrorInternal = true ∨ ∀ display ∈ service.mDisplay, out.setSurfaceReturns display = false

/-- A display is created only under a layer id that is not negative, for a service that leaves it alone. -/
def Mirrors (out : Outside) (h : Host) : HostEvent F → Prop
  | .bufferDimensionsChanged _ => 0 ≤ h.desktop.mLayerId ∧ TakesNoSurface out h.service
  | _ => True

/-! ### One virtual display -/

variable {out : Outside} {service : Fields} {d : Desktop}

theorem onNewSurfaceAvailable_mirroring (mirroring : service.mMirrorInternal = true) :
    onNewSurfaceAvailable out.android service = .ok none (service.emit
      [.setDisplayProps (-1) (-1) (-1) 0 service.mEmulateTouch service.mUseRelativeInput]) := by
  have props : doSetDisplayProps out.android service = .ok () (service.emit
      [.setDisplayProps (-1) (-1) (-1) 0 service.mEmulateTouch service.mUseRelativeInput]) := by
    rw [doSetDisplayProps, Outcomes.bind_ok (Outcomes.get_apply service), if_pos mirroring]
    exact perform_apply _ service
  rw [onNewSurfaceAvailable, Outcomes.bind_ok props, Outcomes.bind_ok (Outcomes.get_apply _)]
  exact congrFun (if_pos mirroring) _

theorem onNewSurfaceAvailable_display (extended : service.mMirrorInternal = false) {display : Nat}
    (held : display ∈ service.mDisplay) :
    onNewSurfaceAvailable out.android service = .ok (some display) (service.emit
      [.setDisplayProps service.mWidth service.mHeight (out.android.getRotation display * 90) (-1)
        service.mEmulateTouch service.mUseRelativeInput]) := by
  have test : ¬ service.mMirrorInternal = true := Bool.eq_false_iff.mp extended
  have props : doSetDisplayProps out.android service = .ok () (service.emit
      [.setDisplayProps service.mWidth service.mHeight (out.android.getRotation display * 90) (-1)
        service.mEmulateTouch service.mUseRelativeInput]) := by
    rw [doSetDisplayProps, Outcomes.bind_ok (Outcomes.get_apply service), if_neg test, held]
    rfl
  rw [onNewSurfaceAvailable, Outcomes.bind_ok props, Outcomes.bind_ok (Outcomes.get_apply _)]
  refine (congrFun (if_neg test) _).trans ?_
  rw [← Option.mem_def.mp held]
  rfl

theorem onNewSurfaceAvailable_null (extended : service.mMirrorInternal = false)
    (null : service.mDisplay = none) :
    onNewSurfaceAvailable out.android service = .error .nullPointer service := by
  have test : ¬ service.mMirrorInternal = true := Bool.eq_false_iff.mp extended
  have props : doSetDisplayProps out.android service = .error .nullPointer service := by
    rw [doSetDisplayProps, Outcomes.bind_ok (Outcomes.get_apply service), if_neg test, null]
    rfl
  exact Outcomes.bind_error props

theorem setSurface_nil_iff (current : (getSurface d).isSome = true) :
    out.setSurface d service = [] ↔ TakesNoSurface out service := by
  unfold Outside.setSurface TakesNoSurface
  cases mirroring : service.mMirrorInternal with
  | true =>
    rw [onNewSurfaceAvailable_mirroring mirroring]
    exact iff_of_true rfl (Or.inl rfl)
  | false =>
    cases held : service.mDisplay with
    | none =>
      rw [onNewSurfaceAvailable_null mirroring held]
      exact iff_of_true rfl (Or.inr fun display member => nomatch member)
    | some display =>
      rw [onNewSurfaceAvailable_display mirroring held]
      simp [current]

theorem setDisplaySurface_new (pixels : PixelBuffer F) (d : Desktop) :
    setDisplaySurface (newDisplay pixels d) = [.surfaceFlinger] := by
  unfold setDisplaySurface newDisplay
  rw [Display.new_projection]
  rfl

theorem created_composers (h : Host) (pixels : PixelBuffer F) :
    (h.created out pixels).composers = .surfaceFlinger :: out.setSurface (h.shown pixels) h.service := by
  unfold Host.created
  rw [setDisplaySurface_new]
  rfl

/-- SurfaceFlinger always composes, so the other side must not, and the layer id must not be Java's. -/
theorem created_once_iff (h : Host) (pixels : PixelBuffer F) :
    ComposedOnce (h.created out pixels) ↔ 0 ≤ h.desktop.mLayerId ∧ TakesNoSurface out h.service := by
  have composers : (h.created out pixels).composers = _ := created_composers h pixels
  have current : (getSurface (h.shown pixels)).isSome = true := rfl
  have layer : (h.created out pixels).mLayerId = h.desktop.mLayerId := rfl
  constructor
  · intro composed
    have one := composed.once
    rw [composers, List.length_cons, Nat.add_eq_right, List.length_eq_zero_iff] at one
    refine ⟨?_, (setSurface_nil_iff current).mp one⟩
    rw [← layer, ← composed.surfaceFlinger, composers]
    exact List.mem_cons_self
  · rintro ⟨nonnegative, untaken⟩
    rw [(setSurface_nil_iff current).mpr untaken] at composers
    refine ⟨?_, ?_, ?_⟩
    · rw [composers, layer]
      exact iff_of_true List.mem_cons_self nonnegative
    · rw [composers, layer]
      refine iff_of_false ?_ (Int32.not_lt.mpr nonnegative)
      rintro ⟨display, member⟩
      cases List.mem_singleton.mp member
    · rw [composers]
      rfl

/-! ### Every virtual display of a run -/

def AllComposedOnce (h : Host) : Prop := ∀ queue ∈ h.queues, ComposedOnce queue

theorem allComposedOnce_step_iff (h : Host) (event : HostEvent F) :
    AllComposedOnce (hostStep out h event) ↔ Mirrors out h event ∧ AllComposedOnce h := by
  unfold AllComposedOnce
  cases event with
  | setDisplayProps props => exact (and_iff_right trivial).symm
  | service service => exact (and_iff_right trivial).symm
  | update q => exact (and_iff_right trivial).symm
  | bufferDimensionsChanged pixels =>
    show (∀ queue ∈ h.created out pixels :: h.queues, ComposedOnce queue) ↔ _
    rw [List.forall_mem_cons, created_once_iff]
    rfl

/-- However the display properties, the service and the size of the buffer change, each virtual
display of the run has the one composer it should have, exactly when each is created to mirror. -/
theorem all_composed_once_iff (out : Outside) (desktop : Desktop) (service : Fields) (run : List (HostEvent F)) :
    AllComposedOnce (run.foldl (hostStep out) ⟨desktop, service, []⟩) ↔
      Runs.Along (hostStep out) (Mirrors out) ⟨desktop, service, []⟩ run := by
  rw [Runs.foldl_iff_along allComposedOnce_step_iff]
  apply and_iff_left
  intro queue member
  cases member

def Outside.calm : Outside := ⟨.calm, .calm, fun _ => true⟩

/-- A service that shows a display of its own, and a desktop that has not been told anything. -/
def extending : Host := ⟨{ mInputDevice := .closed }, { mDisplay := some 0, displays := 1, mIsRunning := true }, []⟩

def extend : List (HostEvent Single) :=
  [.setDisplayProps ⟨1280, 720, 0, -1, false, false⟩, .update ⟨true, none, none⟩,
    .bufferDimensionsChanged (.first false 1280 720)]

theorem extended_display_composed_twice :
    (extend.foldl (hostStep .calm) extending).queues = [⟨-1, [.surfaceFlinger, .java 0]⟩] ∧
    ¬ AllComposedOnce (extend.foldl (hostStep .calm) extending) := by
  have queues : (extend.foldl (hostStep .calm) extending).queues = [⟨-1, [.surfaceFlinger, .java 0]⟩] := by
    decide +kernel
  refine ⟨queues, fun composed => ?_⟩
  have once := (composed ⟨-1, [.surfaceFlinger, .java 0]⟩ (by rw [queues]; exact List.mem_cons_self)).once
  exact absurd once (by decide)

/-! ### A service that mirrors, and one that does not -/

theorem displayProps_mirroring (mirroring : service.mMirrorInternal = true) :
    out.displayProps service =
      some ⟨-1, -1, -1, 0, service.mEmulateTouch, service.mUseRelativeInput⟩ := by
  rw [Outside.displayProps, Outcomes.after_ok (onNewSurfaceAvailable_mirroring (by exact mirroring))]
  rfl

/-- Nobody takes the layer id or the setting away that mirroring needs. -/
def KeepsMirroring : HostEvent F → Prop
  | .setDisplayProps props => 0 ≤ props.layerId
  | .service service => service.mMirrorInternal = true
  | _ => True

structure Mirroring (h : Host) : Prop where
  layer : 0 ≤ h.desktop.mLayerId
  setting : h.service.mMirrorInternal = true

theorem layer_callback {p : Platform} (sets : ∀ n, ∀ props ∈ p.displayProps n, 0 ≤ props.layerId) :
    Outcomes.Keeps (fun d : Desktop => 0 ≤ d.mLayerId) (Display.runJniCallback p) := by
  intro d layer
  rcases Display.callback_cases p d with run | ⟨props, set, run⟩
  · rw [run]
    exact layer
  · rw [run]
    exact sets d.callbacks props set

theorem layer_onBufferDimensionsChanged {p : Platform} (sets : ∀ n, ∀ props ∈ p.displayProps n, 0 ≤ props.layerId)
    (pixels : PixelBuffer F) (w h : UInt32) :
    Outcomes.Keeps (fun d : Desktop => 0 ≤ d.mLayerId) (Display.onBufferDimensionsChanged p pixels w h) := by
  unfold Display.onBufferDimensionsChanged
  refine Outcomes.keeps_bind (fun d layer => layer) fun _ => ?_
  refine Outcomes.keeps_bind Outcomes.keeps_get fun d => ?_
  refine Outcomes.keeps_bind (fun d layer => layer) fun _ => ?_
  refine Outcomes.keeps_bind (layer_callback sets) fun _ => ?_
  refine Outcomes.keeps_bind (fun d layer => layer) fun _ => ?_
  refine Outcomes.keeps_bind (fun d layer => layer) fun _ => ?_
  refine Outcomes.keeps_bind ?_ fun _ => ?_
  · unfold Display.setPixelBuffer
    split
    · exact fun d layer => layer
    · exact fun d layer => layer
  · unfold Display.serverSetScreenLayout
    split
    · exact fun d layer => layer
    · exact fun d layer => layer

theorem layer_storeDisplayInfo (q : Queries) :
    Outcomes.Keeps (fun d : Desktop => 0 ≤ d.mLayerId) (Display.storeDisplayInfo q) := by
  intro d layer
  have stored := Display.storeDisplayInfo_stored q d
  cases outcome : Display.stored q d with
  | nothing =>
    rw [outcome] at stored
    obtain ⟨status, _, run⟩ := stored
    rw [Outcomes.after_ok run]
    exact layer
  | modeOnly mode =>
    rw [outcome] at stored
    rw [Outcomes.after_ok stored]
    exact layer
  | both mode state =>
    rw [outcome] at stored
    rw [Outcomes.after_ok stored]
    exact layer

theorem mirroring_step {h : Host} (mirroring : Mirroring h) {event : HostEvent F} (keeps : KeepsMirroring event) :
    Mirroring (hostStep out h event) := by
  cases event with
  | setDisplayProps props => exact ⟨keeps, mirroring.setting⟩
  | service service => exact ⟨mirroring.layer, keeps⟩
  | update q => exact ⟨layer_storeDisplayInfo q h.desktop mirroring.layer, mirroring.setting⟩
  | bufferDimensionsChanged pixels =>
    refine ⟨layer_onBufferDimensionsChanged ?_ pixels _ _ h.desktop mirroring.layer, mirroring.setting⟩
    intro n props set
    rw [Outside.calling, displayProps_mirroring mirroring.setting] at set
    cases set
    exact Int32.le_refl 0

/-- As long as the service mirrors and says so, SurfaceFlinger is the one composer of each queue. -/
theorem mirroring_run {h : Host} (mirroring : Mirroring h) (composed : AllComposedOnce h) {run : List (HostEvent F)}
    (keeps : ∀ event ∈ run, KeepsMirroring event) : AllComposedOnce (run.foldl (hostStep out) h) := by
  have final : Mirroring (run.foldl (hostStep out) h) ∧ AllComposedOnce (run.foldl (hostStep out) h) := by
    refine Runs.foldl_invariant (I := fun h => Mirroring h ∧ AllComposedOnce h) ⟨mirroring, composed⟩ ?_
    rintro h event member ⟨mirroring, composed⟩
    refine ⟨mirroring_step mirroring (keeps event member), (allComposedOnce_step_iff h event).mpr ⟨?_, composed⟩⟩
    cases event with
    | bufferDimensionsChanged pixels => exact ⟨mirroring.layer, Or.inl mirroring.setting⟩
    | setDisplayProps props => trivial
    | service service => trivial
    | update q => trivial
  exact final.2

def TakesSurface (out : Outside) (service : Fields) : Prop :=
  service.mMirrorInternal = false ∧ ∃ display ∈ service.mDisplay, out.setSurfaceReturns display = true

theorem setSurface_taken (takes : TakesSurface out service) (current : (getSurface d).isSome = true) :
    ∃ display, out.setSurface d service = [.java display] := by
  obtain ⟨extended, display, held, returns⟩ := takes
  refine ⟨display, ?_⟩
  rw [Outside.setSurface, onNewSurfaceAvailable_display extended held]
  simp [current, returns]

structure Extending (out : Outside) (h : Host) : Prop where
  takes : TakesSurface out h.service
  twice : ∀ queue ∈ h.queues, ∃ display, queue.composers = [.surfaceFlinger, .java display]

theorem extending_step {h : Host} (extending : Extending out h) {event : HostEvent F}
    (keeps : ∀ service, event = .service service → TakesSurface out service) :
    Extending out (hostStep out h event) := by
  cases event with
  | setDisplayProps props => exact ⟨extending.takes, extending.twice⟩
  | service service => exact ⟨keeps service rfl, extending.twice⟩
  | update q => exact ⟨extending.takes, extending.twice⟩
  | bufferDimensionsChanged pixels =>
    refine ⟨extending.takes, ?_⟩
    obtain ⟨display, taken⟩ := setSurface_taken (d := h.shown pixels) extending.takes rfl
    have latest : (h.created out pixels).composers = [.surfaceFlinger, .java display] := by
      rw [created_composers, taken]
    exact List.forall_mem_cons.mpr ⟨⟨display, latest⟩, extending.twice⟩

/-- A service with a display of its own has every queue composed twice, whatever the layer ids are. -/
theorem extending_run {h : Host} (fresh : h.queues = []) (takes : TakesSurface out h.service)
    {run : List (HostEvent F)} (keeps : ∀ service, .service service ∈ run → TakesSurface out service) :
    ∀ queue ∈ (run.foldl (hostStep out) h).queues, ∃ display, queue.composers = [.surfaceFlinger, .java display] := by
  have start : Extending out h := by
    refine ⟨takes, ?_⟩
    rw [fresh]
    exact fun queue member => nomatch member
  have final : Extending out (run.foldl (hostStep out) h) := by
    refine Runs.foldl_invariant start ?_
    intro h event member extending
    refine extending_step extending ?_
    rintro service rfl
    exact keeps service member
  exact final.twice

end VncFlinger.Service
