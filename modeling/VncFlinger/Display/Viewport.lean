import VncFlinger.Display.Pointer
import VncFlinger.Display.Telling

/-!
# The viewport along a run

After a start, and through any history of updates, window sizes, properties and input, the
viewport is the letterbox of the buffer's size, also where an exception has cut a call short.
-/

namespace VncFlinger.Display

inductive ClientEvent where
  | desktop (event : DesktopEvent)
  | pointer (pos : Point) (buttonMask : Int32) (undefined : UInt32 × UInt32)
  | key (keysym : UInt32) (down : Bool)
  deriving DecidableEq, Repr

def ClientEvent.Positive : ClientEvent → Prop
  | .desktop (.update q) => q.Positive
  | _ => True

variable {F : Type} [Floats F]

def clientStep (p : Platform) (s : Option (Buffered F Desktop)) : ClientEvent → Option (Buffered F Desktop)
  | .desktop event => desktopStep p s event
  | .pointer pos buttonMask undefined => s.map (Outcomes.after (pointerEvent p undefined pos buttonMask))
  | .key keysym down => s.map (Outcomes.after (keyEvent p keysym down))

/-- The viewport in a buffer of a size that `setSize` has taken. -/
def Letterboxed (F : Type) [Floats F] (p : Platform) (w h : UInt32) (d : Desktop) : Prop :=
  p.setSizeAccepts w h = true ∧
    ∃ mode : Size, ∃ state, mode.Positive ∧ d.mDisplayRect = letterbox F w h (sourceRect mode state)

structure Framed (p : Platform) (s : Buffered F Desktop) : Prop where
  mode : s.listener.mDisplayMode.Positive
  viewport : Letterboxed F p s.pixels.width s.pixels.height s.listener

theorem hears_letterboxed (p : Platform) :
    Hears (p.buffer : BufferEnv F Desktop) (fun d => d.mDisplayMode.Positive) (Letterboxed F p) := by
  intro b d positive accepted
  obtain ⟨server, told⟩ := told_served (p := p) b d
  have mode : (p.buffer.told b d).mDisplayMode = d.mDisplayMode := by
    rw [told]
    exact rebuilt_mode p b d
  refine ⟨?_, accepted, d.mDisplayMode, d.mDisplayState, positive, ?_⟩
  · show (p.buffer.told b d).mDisplayMode.Positive
    rw [mode]
    exact positive
  · rw [told]
    rfl

variable {p : Platform}

theorem Framed.of_same {s s' : Buffered F Desktop} (framed : Framed p s) (size : SameSize s.pixels s'.pixels)
    (mode : s'.listener.mDisplayMode = s.listener.mDisplayMode)
    (rect : s'.listener.mDisplayRect = s.listener.mDisplayRect) : Framed p s' where
  mode := by rw [mode]; exact framed.mode
  viewport := by rw [Letterboxed, size.1, size.2, rect]; exact framed.viewport

theorem Framed.of_informs {x : BufferM F Desktop Unit}
    (informs : Informs (fun d : Desktop => d.mDisplayMode.Positive) (Letterboxed F p) x) {s : Buffered F Desktop}
    (framed : Framed p s) : Framed p (Outcomes.after x s) := by
  obtain ⟨mode, fresh⟩ := informs s framed.mode
  exact ⟨mode, fresh.holds framed.viewport⟩

theorem callback_rect (d : Desktop) :
    (Outcomes.after (runJniCallback p) d).mDisplayRect = d.mDisplayRect := by
  rcases callback_cases p d with run | ⟨props, _, run⟩
  · rw [run]
  · rw [run]
    rfl

theorem framed_resize {s : Buffered F Desktop} (framed : Framed p s)
    (reqWidth reqHeight : Int32) : Framed p (Outcomes.after (setScreenLayout p reqWidth reqHeight) s) := by
  have run := setScreenLayout_apply (p := p) reqWidth reqHeight s
  split_ifs at run
  · rw [Outcomes.after_ok run]
    exact framed.of_same ⟨rfl, rfl⟩ (sameGeometry_callback p s.listener).mode (callback_rect s.listener)
  · rw [Outcomes.after_ok run]
    exact framed
  · obtain ⟨server, after⟩ := layout_after (p := p) reqWidth.toUInt32 reqHeight.toUInt32 s
    rw [Outcomes.after_congr run, after]
    have windowed := framed.of_informs
      (informs_setWindowSize (hears_letterboxed p) reqWidth.toUInt32 reqHeight.toUInt32)
    exact windowed.of_same ⟨rfl, rfl⟩ rfl rfl
  · rw [Outcomes.after_ok run]
    exact framed

theorem framed_update {q : Queries} (positive : q.Positive) {s s' : Buffered F Desktop}
    (framed : Framed p s) {status : UpdateStatus} (ok : updateDisplayInfo p q false s = .ok status s') :
    Framed p s' := by
  cases update_returned ok with
  | nothing same =>
    rw [same]
    exact framed
  | modeOnly only shown =>
    rw [shown]
    exact ⟨stored_modeOnly_positive positive only, framed.viewport⟩
  | @both mode state both info =>
    have showing : Framed p (s.showing mode state) := ⟨stored_positive positive both, framed.viewport⟩
    have after := showing.of_informs
      (informs_setDisplayInfo (hears_letterboxed p) mode state false)
    rw [Outcomes.after_ok info] at after
    exact after

/-- Between the events of a run the viewport is the letterbox, as long as the server loop is running. -/
def RunningFramed (p : Platform) (s : Option (Buffered F Desktop)) : Prop := ∀ running ∈ s, Framed p running

theorem framed_step {s : Option (Buffered F Desktop)} (framed : RunningFramed p s)
    {event : ClientEvent} (positive : event.Positive) : RunningFramed p (clientStep p s event) := by
  intro running member
  cases event with
  | desktop event =>
    obtain ⟨before, here, left⟩ := desktopStep_left member
    have framed := framed before here
    cases left with
    | update result => exact framed_update positive framed result
    | resize reqWidth reqHeight => exact framed_resize framed reqWidth reqHeight
    | props => exact framed.of_same ⟨rfl, rfl⟩ rfl rfl
  | pointer pos buttonMask undefined =>
    cases s with
    | none => cases member
    | some s =>
      have framed := framed s rfl
      cases member
      have run := pointerEvent_apply p undefined pos buttonMask s
      split_ifs at run
      · rw [Outcomes.after_ok run]
        exact framed.of_same ⟨rfl, rfl⟩ rfl rfl
      · rw [Outcomes.after_ok run]
        exact framed
  | key keysym down =>
    cases s with
    | none => cases member
    | some s =>
      cases member
      exact (framed s rfl).of_same ⟨rfl, rfl⟩ rfl rfl

theorem framed_run {s : Option (Buffered F Desktop)} (framed : RunningFramed p s) (run : List ClientEvent)
    (positive : ∀ event ∈ run, event.Positive) : RunningFramed p (run.foldl (clientStep p) s) :=
  Runs.foldl_invariant framed fun _ event member before => framed_step before (positive event member)

theorem framed_start {q : Queries} (positive : q.Positive)
    {clientWidth clientHeight sourceWidth sourceHeight : UInt32} {device : Input.Device} {d : Desktop}
    {s : Buffered F Desktop}
    (started : start p q (allocate (.constructed clientWidth clientHeight sourceWidth sourceHeight) device d) =
      .ok true s) : Framed p s := by
  obtain ⟨mode, state, middle, both, info, final⟩ := start_returned started
  have pixels := start_reported info
  have informed := informs_setDisplayInfo (hears_letterboxed (F := F) p) mode state true
    ((allocate (.constructed clientWidth clientHeight sourceWidth sourceHeight) device d).showing mode state)
    (stored_positive positive both)
  rw [Outcomes.after_ok info] at informed
  obtain ⟨kept, fresh⟩ := informed
  have told : Letterboxed F p middle.pixels.width middle.pixels.height middle.listener := by
    refine fresh.resolve_right ?_
    -- the constructor's size is empty, the first report's is not
    rintro ⟨⟨width, _⟩, _⟩
    rw [pixels] at width
    exact Floats.unscaled_ne_zero (orientedWidth_ne_zero (stored_positive positive both) state) width
  have framed : Framed p middle := ⟨kept, told⟩
  rw [final]
  exact framed.of_same ⟨rfl, rfl⟩ rfl rfl

/-! ### Both directions -/

theorem sides_sourceRect {mode : Size} (positive : mode.Positive) (state : Rotation) :
    ∃ sw sh, Sides (sourceRect mode state) sw sh := by
  obtain ⟨wide, high⟩ := positive
  rw [Int32.lt_iff_toInt_lt] at wide high
  have zero : (0 : Int32).toInt = 0 := by decide
  have width : (mode.width - 0).toInt = mode.width.toInt.toNat := by rw [Int32.sub_zero]; omega
  have height : (mode.height - 0).toInt = mode.height.toInt.toNat := by rw [Int32.sub_zero]; omega
  unfold sourceRect Rect.sized
  split
  · exact ⟨mode.width.toInt.toNat, mode.height.toInt.toNat, width, height, by omega, by omega⟩
  · exact ⟨mode.height.toInt.toNat, mode.width.toInt.toNat, height, width, by omega, by omega⟩

/-- In a buffer whose size is an `int`, the viewport is centred across. Down it is centred too, unless no
position lies in it. -/
theorem Framed.centred {s : Buffered F Desktop} (framed : Framed p s)
    (small : s.pixels.width.toNat < 2 ^ 31 ∧ s.pixels.height.toNat < 2 ^ 31) :
    (∃ outX, Viewed s.pixels.width s.listener.mDisplayRect.left s.listener.mDisplayRect.right outX) ∧
      ((∃ outY, Viewed s.pixels.height s.listener.mDisplayRect.top s.listener.mDisplayRect.bottom outY) ∨
        s.listener.mDisplayRect.bottom < s.listener.mDisplayRect.top) := by
  obtain ⟨_, mode, state, _, rect⟩ := framed.viewport
  obtain ⟨⟨outX, across⟩, down⟩ := letterbox_centred F s.pixels.width s.pixels.height (sourceRect mode state) small
  rw [rect]
  refine ⟨⟨outX, across, small.1⟩, down.imp_left ?_⟩
  rintro ⟨outY, placed⟩
  exact ⟨outY, placed, small.2⟩

/-- With exact quotients the viewport never leaves the buffer. -/
theorem Framed.viewed {s : Buffered ℚ Desktop} (framed : Framed p s)
    (small : s.pixels.width.toNat < 2 ^ 31 ∧ s.pixels.height.toNat < 2 ^ 31) :
    ∃ outX outY,
      Viewed s.pixels.width s.listener.mDisplayRect.left s.listener.mDisplayRect.right outX ∧
      Viewed s.pixels.height s.listener.mDisplayRect.top s.listener.mDisplayRect.bottom outY := by
  obtain ⟨_, mode, state, positive, rect⟩ := framed.viewport
  obtain ⟨sw, sh, sides⟩ := sides_sourceRect positive state
  obtain ⟨horizontal, vertical⟩ := letterbox_placed s.pixels.width s.pixels.height sides small
  rw [rect]
  exact ⟨_, _, ⟨horizontal, small.1⟩, ⟨vertical, small.2⟩⟩

end VncFlinger.Display
