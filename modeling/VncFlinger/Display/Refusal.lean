import VncFlinger.Display.BufferSize
import VncFlinger.Display.Sizes

/-!
# What a refused size leaves behind

The members change before `setSize` is called, and stay changed when it throws. A client size that was
refused is remembered as if the buffer had it, and so is its scale.
-/

namespace VncFlinger.Display

variable {F τ : Type}

/-- `setSize` throws. An exception of the listener comes after the notification. -/
def Refuses (x : BufferM F τ Unit) (s : Buffered F τ) : Prop :=
  ∃ s', x s = .error () s' ∧ s'.notified = s.notified

structure KeepsGeometry (b b' : PixelBuffer F) : Prop where
  client : b'.mClientWidth = b.mClientWidth ∧ b'.mClientHeight = b.mClientHeight
  source : b'.mSourceWidth = b.mSourceWidth ∧ b'.mSourceHeight = b.mSourceHeight
  rotated : b'.mRotated = b.mRotated
  scales : b'.mScaleX = b.mScaleX ∧ b'.mScaleY = b.mScaleY

/-- The client size and the scales are what they are computed to be again. -/
structure Consistent [Floats F] (b : PixelBuffer F) : Prop where
  client : b.scaledWidth = b.mClientWidth ∧ b.scaledHeight = b.mClientHeight
  scales : Floats.ofUInt32 b.mClientWidth / Floats.ofUInt32 b.mSourceWidth = b.mScaleX ∧
    Floats.ofUInt32 b.mClientHeight / Floats.ofUInt32 b.mSourceHeight = b.mScaleY

theorem not_keeps_rotated {b b' : PixelBuffer F} {rotated : Bool} (turns : rotated ≠ b.mRotated)
    (turned : b'.mRotated = rotated) : ¬ KeepsGeometry b b' := by
  intro keeps
  exact turns (turned.symm.trans keeps.rotated)

/-! ### Where `setSize` throws -/

variable {env : BufferEnv F τ} {s : Buffered F τ}

theorem not_refuses_ok {x : BufferM F τ Unit} {u : Unit} {s' : Buffered F τ} (ok : x s = .ok u s') :
    ¬ Refuses x s := by
  rintro ⟨s'', error, _⟩
  rw [ok] at error
  cases error

theorem refuses_congr {x y : BufferM F τ Unit} {s' : Buffered F τ} (run : x s = y s')
    (same : s'.notified = s.notified) : Refuses x s ↔ Refuses y s' := by
  unfold Refuses
  rw [run, same]

theorem not_refuses_notify (s : Buffered F τ) : ¬ Refuses (notify env) s := by
  rintro ⟨s', error, unnotified⟩
  have after := after_notify env s
  rw [Outcomes.after_error error] at after
  rw [after] at unnotified
  exact absurd (congrArg List.length unnotified) (by simp)

theorem refuses_setBufferRotation_iff {rotated : Bool} : Refuses (setBufferRotation env rotated) s ↔
    rotated ≠ s.pixels.mRotated ∧ env.accepts s.pixels.height s.pixels.width = false := by
  by_cases turns : rotated = s.pixels.mRotated
  · exact iff_of_false (not_refuses_ok (setBufferRotation_same env turns)) fun refused => refused.1 turns
  · cases accepted : env.accepts s.pixels.height s.pixels.width with
    | true =>
      have run := setBufferRotation_accepted env turns accepted
      refine iff_of_false (fun refuses => ?_) fun refused => Bool.noConfusion refused.2
      exact not_refuses_notify _ ((refuses_congr run rfl).mp refuses)
    | false => exact iff_of_true ⟨_, setBufferRotation_refused env turns accepted, rfl⟩ ⟨turns, rfl⟩

variable [Floats F]

theorem refuses_followClient_iff : Refuses (followClient env) s ↔
    ¬ ClientSized s.pixels ∧ env.accepts s.pixels.mClientWidth s.pixels.mClientHeight = false := by
  have run := followClient_apply env s
  simp only at run
  split_ifs at run with same accepted
  · exact iff_of_false (not_refuses_ok run) fun refused => refused.1 same
  · refine iff_of_false (fun refuses => ?_) fun refused => Bool.eq_false_iff.mp refused.2 accepted
    exact not_refuses_notify _ ((refuses_congr run rfl).mp refuses)
  · exact iff_of_true ⟨_, run, rfl⟩ ⟨same, Bool.eq_false_iff.mpr accepted⟩

theorem followClient_refused (refuses : Refuses (followClient env) s) : followClient env s =
    .error () (s.with (s.pixels.windowed s.pixels.mClientWidth s.pixels.mClientHeight)) := by
  obtain ⟨differs, refused⟩ := refuses_followClient_iff.mp refuses
  have run := followClient_apply env s
  simp only at run
  rwa [if_neg (by exact differs), if_neg (Bool.eq_false_iff.mp refused)] at run

theorem refuses_setWindowSize_iff {width height : UInt32} : Refuses (setWindowSize env width height) s ↔
    ¬ (s.pixels.mClientWidth = width ∧ s.pixels.mClientHeight = height) ∧
      ¬ (width = s.pixels.width ∧ height = s.pixels.height) ∧ env.accepts width height = false := by
  have run := setWindowSize_apply env width height s
  by_cases known : s.pixels.mClientWidth = width ∧ s.pixels.mClientHeight = height
  · rw [if_pos known] at run
    exact iff_of_false (not_refuses_ok run) fun refused => refused.1 known
  · rw [if_neg known] at run
    rw [refuses_congr run rfl, refuses_followClient_iff]
    exact (and_iff_right known).symm

theorem refuses_setSource_iff {w h : UInt32} {force : Bool} : Refuses (setSource env w h force) s ↔
    ¬ (w = s.pixels.mSourceWidth ∧ h = s.pixels.mSourceHeight ∧ force = false) ∧
      ¬ ((s.pixels.sourced w h).scaledWidth = s.pixels.width ∧
        (s.pixels.sourced w h).scaledHeight = s.pixels.height) ∧
      env.accepts (s.pixels.sourced w h).scaledWidth (s.pixels.sourced w h).scaledHeight = false := by
  have run := setSource_apply env w h force s
  by_cases known : w = s.pixels.mSourceWidth ∧ h = s.pixels.mSourceHeight ∧ force = false
  · rw [if_pos known] at run
    exact iff_of_false (not_refuses_ok run) fun refused => refused.1 known
  · simp only [if_neg known] at run
    rw [refuses_congr run rfl, refuses_followClient_iff]
    exact (and_iff_right known).symm

/-! ### What is left -/

theorem setWindowSize_refused {width height : UInt32} (refuses : Refuses (setWindowSize env width height) s) :
    setWindowSize env width height s = .error () (s.with (s.pixels.windowed width height)) := by
  have run := setWindowSize_apply env width height s
  rw [if_neg (refuses_setWindowSize_iff.mp refuses).1] at run
  exact run.trans (followClient_refused ((refuses_congr run rfl).mp refuses))

/-- The new source, under the old scales, with the client size and the scales that follow. -/
def PixelBuffer.resourced (b : PixelBuffer F) (w h : UInt32) : PixelBuffer F :=
  (b.sourced w h).windowed (b.sourced w h).scaledWidth (b.sourced w h).scaledHeight

theorem setSource_refused {w h : UInt32} {force : Bool} (refuses : Refuses (setSource env w h force) s) :
    setSource env w h force s = .error () (s.with (s.pixels.resourced w h)) := by
  have run := setSource_apply env w h force s
  simp only [if_neg (refuses_setSource_iff.mp refuses).1] at run
  exact run.trans (followClient_refused ((refuses_congr run rfl).mp refuses))

theorem resourced_keeps_iff (b : PixelBuffer F) (w h : UInt32) :
    KeepsGeometry b (b.resourced w h) ↔ (w = b.mSourceWidth ∧ h = b.mSourceHeight) ∧ Consistent b := by
  constructor
  · intro keeps
    obtain ⟨wide, high⟩ : w = b.mSourceWidth ∧ h = b.mSourceHeight := keeps.source
    subst wide high
    have client : b.scaledWidth = b.mClientWidth ∧ b.scaledHeight = b.mClientHeight := keeps.client
    have scales := keeps.scales
    refine ⟨⟨rfl, rfl⟩, client, ?_⟩
    rw [← client.1, ← client.2]
    exact scales
  · rintro ⟨⟨wide, high⟩, client, scales⟩
    subst wide high
    refine ⟨client, ⟨rfl, rfl⟩, rfl, ?_⟩
    rw [← client.1, ← client.2] at scales
    exact scales

/-! ### The calls -/

/-- `setSize` throws during the call. A report calls it for the turn, and for the new source after that. -/
def SetSizeThrows (env : BufferEnv F τ) (s : Buffered F τ) : BufferCall → Prop
  | .setWindowSize width height => Refuses (setWindowSize env width height) s
  | .setDisplayInfo mode state force =>
    Refuses (setBufferRotation env (isDisplayRotated state)) s ∨
      ∃ middle, setBufferRotation env (isDisplayRotated state) s = .ok () middle ∧
        Refuses (setSource env (orientedWidth mode state) (orientedHeight mode state) force) middle

/-- A report of the stored geometry, with nothing to bring into line. -/
def RepeatsStored (b : PixelBuffer F) : BufferCall → Prop
  | .setWindowSize _ _ => False
  | .setDisplayInfo mode state _ =>
    isDisplayRotated state = b.mRotated ∧
      (orientedWidth mode state = b.mSourceWidth ∧ orientedHeight mode state = b.mSourceHeight) ∧ Consistent b

/-- A call during which `setSize` throws leaves the geometry only if it is a report of what is stored
already: every other one has changed a member before `setSize` is called. -/
theorem refused_keeps_iff {call : BufferCall} (throws : SetSizeThrows env s call) :
    KeepsGeometry s.pixels (bufferStep env s call).pixels ↔ RepeatsStored s.pixels call := by
  cases call with
  | setWindowSize width height =>
    obtain ⟨new, _⟩ := refuses_setWindowSize_iff.mp throws
    have left : bufferStep env s (.setWindowSize width height) = s.with (s.pixels.windowed width height) :=
      Outcomes.after_error (setWindowSize_refused throws)
    rw [left]
    refine iff_of_false (fun keeps => ?_) id
    exact new ⟨keeps.client.1.symm, keeps.client.2.symm⟩
  | setDisplayInfo mode state force =>
    have step : bufferStep env s (.setDisplayInfo mode state force) =
      Outcomes.after (setDisplayInfo env mode state force) s := rfl
    rw [step, setDisplayInfo_eq]
    rcases throws with turn | ⟨middle, turned, source⟩
    · obtain ⟨turns, refused⟩ := refuses_setBufferRotation_iff.mp turn
      rw [Outcomes.after_bind_error (setBufferRotation_refused env turns refused)]
      exact iff_of_false (not_keeps_rotated turns rfl) fun repeats => turns repeats.1
    · rw [Outcomes.after_bind_ok turned, Outcomes.after_error (setSource_refused source)]
      show KeepsGeometry s.pixels (middle.pixels.resourced _ _) ↔ _
      rw [setBufferRotation_returned env turned]
      by_cases same : isDisplayRotated state = s.pixels.mRotated
      · rw [turned_same same, resourced_keeps_iff]
        exact (and_iff_right same).symm
      · refine iff_of_false (not_keeps_rotated same ?_) fun repeats => same repeats.1
        rw [PixelBuffer.turned, if_neg same]
        rfl

def BufferEnv.bounded : BufferEnv Single Unit := ⟨fun w h => decide (w ≤ 16384 ∧ h ≤ 16384), fun _ _ _ => pure ()⟩

/-- The buffer of an upright display of 1080 by 1920 after its first report. -/
def firstReported : Buffered Single Unit := { pixels := .first false 1080 1920, listener := () }

/-- The client has asked for a size beyond the bound. -/
def oversized : Buffered Single Unit := bufferStep .bounded firstReported (.setWindowSize 20000 100)

theorem refused_report_keeps : KeepsGeometry oversized.pixels
    (bufferStep .bounded oversized (.setDisplayInfo ⟨1080, 1920⟩ .rotation0 true)).pixels := by
  have throws : SetSizeThrows .bounded oversized (.setDisplayInfo ⟨1080, 1920⟩ .rotation0 true) := by
    have flag : oversized.pixels.mRotated = false := by decide +kernel
    refine Or.inr ⟨oversized, setBufferRotation_same _ flag.symm, refuses_setSource_iff.mpr ⟨?_, ?_, ?_⟩⟩
    · exact fun known => Bool.noConfusion known.2.2
    · decide +kernel
    · decide +kernel
  refine (refused_keeps_iff throws).mpr ⟨?_, ?_, ?_, ?_⟩
  · decide +kernel
  · decide +kernel
  · decide +kernel
  · decide +kernel

/-- The refused size stays the client size. The request succeeds the next time, and a quarter turn that
the display could make before now throws. -/
theorem refused_window_remembered :
    SetSizeThrows .bounded firstReported (.setWindowSize 20000 100) ∧
    ¬ KeepsGeometry firstReported.pixels oversized.pixels ∧
    setWindowSize .bounded 20000 100 oversized = .ok () oversized ∧
    Outcomes.Returns (setDisplayInfo .bounded ⟨1080, 1920⟩ .rotation90 false) firstReported ∧
    ¬ Outcomes.Returns (setDisplayInfo .bounded ⟨1080, 1920⟩ .rotation90 false) oversized := by
  refine ⟨refuses_setWindowSize_iff.mpr ⟨?_, ?_, by decide⟩, fun keeps => ?_, ?_, ?_, ?_⟩
  · decide +kernel
  · decide +kernel
  · exact absurd keeps.client.1 (by decide +kernel)
  · exact (setWindowSize_apply _ _ _ _).trans (if_pos (by decide +kernel))
  · have value : Outcomes.value (setDisplayInfo .bounded ⟨1080, 1920⟩ .rotation90 false) firstReported = some () := by
      decide +kernel
    exact ⟨(), _, Outcomes.ok_of_value value⟩
  · rintro ⟨u, s', returned⟩
    have value : Outcomes.value (setDisplayInfo .bounded ⟨1080, 1920⟩ .rotation90 false) oversized = none := by
      decide +kernel
    rw [Outcomes.value, returned] at value
    cases value

/-! ### What a refused window spoils -/

/-- The same window again is taken for the size of the client. -/
theorem refused_window_repeated {width height : UInt32} (refuses : Refuses (setWindowSize env width height) s) :
    setWindowSize env width height (Outcomes.after (setWindowSize env width height) s) =
      .ok () (Outcomes.after (setWindowSize env width height) s) := by
  rw [Outcomes.after_error (setWindowSize_refused refuses), setWindowSize_apply]
  exact if_pos ⟨rfl, rfl⟩

/-- What a quarter turn of the display makes of a refused window. -/
def PixelBuffer.sideways (b : PixelBuffer F) (width height : UInt32) : PixelBuffer F :=
  ((b.windowed width height).turned (!b.mRotated)).resourced b.mSourceHeight b.mSourceWidth

/-- The turn asks for the window on its side, as the scales give it. If that is refused too, it throws. -/
theorem refused_window_stops_turn {width height : UInt32} (refuses : Refuses (setWindowSize env width height) s)
    (beyond : env.accepts (s.pixels.sideways width height).mClientWidth
      (s.pixels.sideways width height).mClientHeight = false)
    {mode : Size} {state : Rotation} {force : Bool} (turns : isDisplayRotated state ≠ s.pixels.mRotated)
    (sides : orientedWidth mode state = s.pixels.mSourceHeight ∧ orientedHeight mode state = s.pixels.mSourceWidth)
    (new : ¬ (s.pixels.mSourceHeight = s.pixels.mSourceWidth ∧ force = false)) :
    ¬ Outcomes.Returns (setDisplayInfo env mode state force)
      (Outcomes.after (setWindowSize env width height) s) := by
  rw [Outcomes.after_error (setWindowSize_refused refuses)]
  rintro ⟨u, s', returned⟩
  rw [setDisplayInfo_eq, sides.1, sides.2, Bool.eq_not.mpr turns] at returned
  obtain ⟨_, middle, turned, sourced⟩ := Outcomes.bind_returns returned
  have accepted : env.accepts s.pixels.height s.pixels.width = true :=
    ((setBufferRotation_returns_iff env).mp ⟨_, _, turned⟩ (Bool.not_ne_self s.pixels.mRotated)).1
  have pixels := setBufferRotation_returned env turned
  have turnedWidth : middle.pixels.width = s.pixels.height ∧ middle.pixels.height = s.pixels.width := by
    rw [pixels, PixelBuffer.turned, if_neg (by exact Bool.not_ne_self s.pixels.mRotated)]
    exact ⟨rfl, rfl⟩
  have source : middle.pixels.mSourceWidth = s.pixels.mSourceWidth := by
    rw [pixels, PixelBuffer.turned, if_neg (by exact Bool.not_ne_self s.pixels.mRotated)]
    rfl
  rw [PixelBuffer.sideways] at beyond
  refine not_refuses_ok sourced (refuses_setSource_iff.mpr ⟨fun known => ?_, fun same => ?_, ?_⟩)
  · exact new ⟨known.1.trans source, known.2.2⟩
  · rw [turnedWidth.1, turnedWidth.2, pixels] at same
    have asked : env.accepts s.pixels.height s.pixels.width = false := by
      rw [← same.1, ← same.2]
      exact beyond
    rw [accepted] at asked
    cases asked
  · rw [pixels]
    exact beyond

section Requests

variable {p : Platform} {d : Buffered F Desktop} {reqWidth reqHeight : Int32}

/-- The request of a client that gets as far as the buffer, and is refused there. -/
structure LayoutRefused (p : Platform) (d : Buffered F Desktop) (reqWidth reqHeight : Int32) : Prop where
  mirrors : ¬ d.listener.mLayerId < 0
  new : ¬ (reqWidth = d.listener.mDisplayRect.getWidth ∧ reqHeight = d.listener.mDisplayRect.getHeight)
  positive : 0 < reqWidth ∧ 0 < reqHeight
  refuses : Refuses (setWindowSize p.buffer reqWidth.toUInt32 reqHeight.toUInt32) d

theorem LayoutRefused.left (refused : LayoutRefused p d reqWidth reqHeight) :
    setScreenLayout p reqWidth reqHeight d =
      .error () (d.with (d.pixels.windowed reqWidth.toUInt32 reqHeight.toUInt32)) := by
  rw [setScreenLayout_apply, if_neg refused.mirrors, if_neg refused.new, if_pos refused.positive]
  exact Outcomes.bind_error (setWindowSize_refused refused.refuses)

theorem LayoutRefused.repeated (refused : LayoutRefused p d reqWidth reqHeight)
    (serves : p.setScreenLayoutReturns d.pixels.width d.pixels.height = true) :
    ∃ d', setScreenLayout p reqWidth reqHeight (Outcomes.after (setScreenLayout p reqWidth reqHeight) d) =
      .ok true d' ∧ SameSize d.pixels d'.pixels := by
  have again := refused_window_repeated refused.refuses
  rw [Outcomes.after_error (setWindowSize_refused refused.refuses)] at again
  rw [Outcomes.after_error refused.left, setScreenLayout_apply, if_neg (by exact refused.mirrors),
    if_neg (by exact refused.new), if_pos refused.positive, Outcomes.bind_ok again,
    Outcomes.bind_ok (getPixels_apply _)]
  exact ⟨_, Outcomes.bind_ok (layout_given (by exact serves)), rfl, rfl⟩

theorem desktopStep_throws {q : Queries} (throws : ¬ Outcomes.Returns (updateDisplayInfo p q false) d) :
    desktopStep p (some d) (.update q) = none := by
  rw [desktopStep]
  cases result : updateDisplayInfo p q false d with
  | ok status d' => exact absurd ⟨status, d', result⟩ throws
  | error e d' => rfl

/-- At the next quarter turn of the display the update throws, and the server loop ends. -/
theorem LayoutRefused.ends_loop (refused : LayoutRefused p d reqWidth reqHeight)
    (beyond : p.setSizeAccepts (d.pixels.sideways reqWidth.toUInt32 reqHeight.toUInt32).mClientWidth
      (d.pixels.sideways reqWidth.toUInt32 reqHeight.toUInt32).mClientHeight = false) {q : Queries}
    {mode : Size} {state : Rotation} (both : stored q d.listener = .both mode state)
    (turns : isDisplayRotated state ≠ d.pixels.mRotated)
    (sides : orientedWidth mode state = d.pixels.mSourceHeight ∧ orientedHeight mode state = d.pixels.mSourceWidth)
    (oblong : d.pixels.mSourceHeight ≠ d.pixels.mSourceWidth) :
    desktopStep p (some (Outcomes.after (setScreenLayout p reqWidth reqHeight) d)) (.update q) = none := by
  have looked := refuses_setWindowSize_iff.mp refused.refuses
  have refuses : Refuses (setWindowSize p.buffer reqWidth.toUInt32 reqHeight.toUInt32) (d.showing mode state) := by
    rw [refuses_setWindowSize_iff]
    exact looked
  have stops : ¬ Outcomes.Returns (setDisplayInfo p.buffer mode state false)
      (Outcomes.after (setWindowSize p.buffer reqWidth.toUInt32 reqHeight.toUInt32) (d.showing mode state)) := by
    apply refused_window_stops_turn refuses beyond
    · exact turns
    · exact sides
    · exact fun square => oblong square.1
  rw [Outcomes.after_error (setWindowSize_refused refuses)] at stops
  rw [Outcomes.after_error refused.left]
  apply desktopStep_throws
  rintro ⟨status, d', returned⟩
  rw [updateDisplayInfo_both false (by exact both)] at returned
  obtain ⟨_, middle, info, _⟩ := Outcomes.bind_returns returned
  exact stops ⟨_, middle, info⟩

end Requests

end VncFlinger.Display
