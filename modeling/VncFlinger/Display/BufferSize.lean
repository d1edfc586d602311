import VncFlinger.Library.Runs
import VncFlinger.Library.Toggle
import VncFlinger.Display.PixelBuffer

/-!
# The sizes the listener is told

A new buffer is empty until its first size is known, and a first report that turns it announces
the empty size. Afterwards a size is announced as 0 exactly when a scaled source truncates to it.
-/

namespace VncFlinger.Display

inductive BufferCall where
  | setDisplayInfo (mode : Size) (state : Rotation) (force : Bool)
  | setWindowSize (width height : UInt32)
  deriving DecidableEq, Repr

def BufferCall.Positive : BufferCall → Prop
  | .setDisplayInfo mode _ _ => mode.Positive
  | .setWindowSize width height => 0 < width ∧ 0 < height

instance : DecidablePred BufferCall.Positive
  | .setDisplayInfo mode _ _ => inferInstanceAs (Decidable mode.Positive)
  | .setWindowSize width height => inferInstanceAs (Decidable (0 < width ∧ 0 < height))

section Calls

variable {F τ : Type} (env : BufferEnv F τ)

/-- A turn that is needed gets its size, and the listener returns from it. -/
def TakesTurn (s : Buffered F τ) (rotated : Bool) : Prop :=
  rotated ≠ s.pixels.mRotated → env.accepts s.pixels.height s.pixels.width = true ∧
    ∃ listener, env.onBufferDimensionsChanged (s.pixels.turned rotated) s.pixels.height s.pixels.width
      s.listener = .ok () listener

/-! ### What a call announces -/

def announced (before after : Buffered F τ) : List (UInt32 × UInt32) :=
  after.notified.drop before.notified.length

/-- A buffer is empty in both directions or in neither. -/
def WellSized (b : PixelBuffer F) : Prop := b.width = 0 ∧ b.height = 0 ∨ 0 < b.width ∧ 0 < b.height

/-- `s'` is a state reached from `s` by announcing `sizes`, the last of which it has. -/
structure Announced (sizes : List (UInt32 × UInt32)) (s s' : Buffered F τ) : Prop where
  notified : s'.notified = s.notified ++ sizes
  size : (s'.pixels.width, s'.pixels.height) = sizes.getLastD (s.pixels.width, s.pixels.height)

theorem Announced.trans {first second : List (UInt32 × UInt32)} {s s' s'' : Buffered F τ}
    (before : Announced first s s') (later : Announced second s' s'') :
    Announced (first ++ second) s s'' where
  notified := by rw [later.notified, before.notified, List.append_assoc]
  size := by rw [later.size, before.size, Toggle.getLastD_append]

theorem Announced.drop {sizes : List (UInt32 × UInt32)} {s s' : Buffered F τ} (h : Announced sizes s s') :
    announced s s' = sizes := by
  rw [announced, h.notified, List.drop_left]

theorem Announced.of_with {sizes : List (UInt32 × UInt32)} {s s' : Buffered F τ} {b : PixelBuffer F}
    (told : Announced sizes (s.with b) s') (width : b.width = s.pixels.width)
    (height : b.height = s.pixels.height) : Announced sizes s s' where
  notified := told.notified
  size := by rw [told.size, ← width, ← height]; rfl

theorem Announced.none {s s' : Buffered F τ} (notified : s'.notified = s.notified)
    (width : s'.pixels.width = s.pixels.width) (height : s'.pixels.height = s.pixels.height) :
    Announced [] s s' where
  notified := by rw [notified, List.append_nil]
  size := by rw [width, height]; rfl

theorem announced_notify (s : Buffered F τ) :
    Announced [(s.pixels.width, s.pixels.height)] s (Outcomes.after (notify env) s) := by
  rw [after_notify env s]
  exact ⟨rfl, rfl⟩

theorem setBufferRotation_announces {s : Buffered F τ} {rotated : Bool} (turns : rotated ≠ s.pixels.mRotated)
    (accepted : env.accepts s.pixels.height s.pixels.width = true) :
    Announced [(s.pixels.height, s.pixels.width)] s (Outcomes.after (setBufferRotation env rotated) s) := by
  have told := announced_notify env (s.with (s.pixels.turned rotated))
  rw [Outcomes.after, setBufferRotation_accepted env turns accepted]
  have size : ((s.pixels.turned rotated).width, (s.pixels.turned rotated).height) =
      (s.pixels.height, s.pixels.width) := by
    rw [PixelBuffer.turned, if_neg turns]
  refine ⟨?_, ?_⟩
  · rw [← size]
    exact told.notified
  · exact told.size.trans size

theorem setBufferRotation_returned {s s' : Buffered F τ} {rotated : Bool} {u : Unit}
    (ok : setBufferRotation env rotated s = .ok u s') : s'.pixels = s.pixels.turned rotated := by
  by_cases same : rotated = s.pixels.mRotated
  · rw [setBufferRotation_same env same] at ok
    cases ok
    rw [turned_same same]
  · cases accepted : env.accepts s.pixels.height s.pixels.width with
    | true =>
      rw [setBufferRotation_accepted env same accepted] at ok
      have after := after_notify env (s.with (s.pixels.turned rotated))
      rw [Outcomes.after_ok ok] at after
      rw [after]
      rfl
    | false =>
      rw [setBufferRotation_refused env same accepted] at ok
      cases ok

theorem setBufferRotation_returns_iff {s : Buffered F τ} {rotated : Bool} :
    Outcomes.Returns (setBufferRotation env rotated) s ↔ TakesTurn env s rotated := by
  by_cases same : rotated = s.pixels.mRotated
  · exact iff_of_true ⟨(), s, setBufferRotation_same env same⟩ fun turns => absurd same turns
  · cases accepted : env.accepts s.pixels.height s.pixels.width with
    | false =>
      refine iff_of_false ?_ fun takes => ?_
      · rintro ⟨_, _, ok⟩
        rw [setBufferRotation_refused env same accepted] at ok
        cases ok
      · rw [(takes same).1] at accepted
        cases accepted
    | true =>
      have width : (s.pixels.turned rotated).width = s.pixels.height := by rw [PixelBuffer.turned, if_neg same]
      have height : (s.pixels.turned rotated).height = s.pixels.width := by rw [PixelBuffer.turned, if_neg same]
      have returned := notify_returns_iff env (s.with (s.pixels.turned rotated))
      rw [Outcomes.Returns, ← setBufferRotation_accepted env same accepted, ← Outcomes.Returns] at returned
      rw [returned]
      show (∃ listener, env.onBufferDimensionsChanged (s.pixels.turned rotated) (s.pixels.turned rotated).width
        (s.pixels.turned rotated).height s.listener = .ok () listener) ↔ _
      rw [width, height]
      exact ⟨fun returns _ => ⟨accepted, returns⟩, fun takes => (takes same).2⟩

variable [Floats F]

theorem followClient_quiet {s : Buffered F τ}
    (quiet : s.pixels.mClientWidth = s.pixels.width ∧ s.pixels.mClientHeight = s.pixels.height ∨
      env.accepts s.pixels.mClientWidth s.pixels.mClientHeight = false) :
    Announced [] s (Outcomes.after (followClient env) s) := by
  rw [Outcomes.after, followClient_apply]
  by_cases same : s.pixels.mClientWidth = s.pixels.width ∧ s.pixels.mClientHeight = s.pixels.height
  · simp only [if_pos same]
    exact ⟨(List.append_nil _).symm, rfl⟩
  · have refused := quiet.resolve_left same
    simp only [if_neg same, refused, Bool.false_eq_true, if_false]
    exact ⟨(List.append_nil _).symm, rfl⟩

theorem followClient_announces {s : Buffered F τ}
    (differs : ¬(s.pixels.mClientWidth = s.pixels.width ∧ s.pixels.mClientHeight = s.pixels.height))
    (accepted : env.accepts s.pixels.mClientWidth s.pixels.mClientHeight = true) :
    Announced [(s.pixels.mClientWidth, s.pixels.mClientHeight)] s (Outcomes.after (followClient env) s) := by
  have run : followClient env s = notify env (s.with ((s.pixels.windowed s.pixels.mClientWidth
      s.pixels.mClientHeight).sized s.pixels.mClientWidth s.pixels.mClientHeight)) := by
    rw [followClient_apply]
    simp only [if_neg differs, accepted, if_true]
  have told := announced_notify env (s.with ((s.pixels.windowed s.pixels.mClientWidth
      s.pixels.mClientHeight).sized s.pixels.mClientWidth s.pixels.mClientHeight))
  rw [Outcomes.after, run]
  exact ⟨told.notified, told.size⟩

theorem setSource_quiet {s : Buffered F τ} {w h : UInt32} {force : Bool}
    (quiet : ¬AsksResize env s.pixels w h force) :
    Announced [] s (Outcomes.after (setSource env w h force) s) := by
  by_cases known : w = s.pixels.mSourceWidth ∧ h = s.pixels.mSourceHeight ∧ force = false
  · have run : setSource env w h force s = .ok () s := by rw [setSource_apply, if_pos known]
    rw [Outcomes.after_ok run]
    exact .none rfl rfl rfl
  · have run := setSource_apply env w h force s
    rw [if_neg known] at run
    rw [Outcomes.after_congr run]
    refine (followClient_quiet env ?_).of_with rfl rfl
    by_contra loud
    obtain ⟨differs, accepted⟩ := not_or.mp loud
    exact quiet ⟨known, differs, Bool.eq_true_of_not_eq_false accepted⟩

theorem setSource_announces {s : Buffered F τ} {w h : UInt32} {force : Bool}
    (asks : AsksResize env s.pixels w h force) :
    Announced [((s.pixels.sourced w h).scaledWidth, (s.pixels.sourced w h).scaledHeight)] s
      (Outcomes.after (setSource env w h force) s) := by
  have run := setSource_apply env w h force s
  rw [if_neg asks.1] at run
  rw [Outcomes.after_congr run]
  let sourced := s.pixels.sourced w h
  have told := followClient_announces env
    (s := s.with (sourced.clientSized sourced.scaledWidth sourced.scaledHeight)) asks.2.1 asks.2.2
  exact told.of_with rfl rfl

theorem setWindowSize_announces (s : Buffered F τ) (width height : UInt32) :
    ∃ sizes, Announced sizes s (Outcomes.after (setWindowSize env width height) s) ∧
      ∀ size ∈ sizes, size = (width, height) := by
  by_cases known : s.pixels.mClientWidth = width ∧ s.pixels.mClientHeight = height
  · have run : setWindowSize env width height s = .ok () s := by rw [setWindowSize_apply, if_pos known]
    rw [Outcomes.after_ok run]
    exact ⟨[], .none rfl rfl rfl, by simp⟩
  · have run := setWindowSize_apply env width height s
    rw [if_neg known] at run
    rw [Outcomes.after_congr run]
    by_cases quiet : width = s.pixels.width ∧ height = s.pixels.height ∨ env.accepts width height = false
    · exact ⟨[], (followClient_quiet env quiet).of_with rfl rfl, by simp⟩
    · obtain ⟨differs, accepted⟩ := not_or.mp quiet
      have told := followClient_announces env (s := s.with (s.pixels.clientSized width height)) differs
        (Bool.eq_true_of_not_eq_false accepted)
      exact ⟨_, told.of_with rfl rfl, fun size member => List.mem_singleton.mp member⟩

/-! ### One call -/

def BufferCall.perform : BufferCall → BufferM F τ Unit
  | .setDisplayInfo mode state force => Display.setDisplayInfo env mode state force
  | .setWindowSize width height => Display.setWindowSize env width height

def bufferStep (s : Buffered F τ) (call : BufferCall) : Buffered F τ := Outcomes.after (call.perform env) s

/-- Every size the call announces is at least 1 by 1. -/
def AnnouncesPositive (s : Buffered F τ) (call : BufferCall) : Prop :=
  ∀ size ∈ announced s (bufferStep env s call), 0 < size.1 ∧ 0 < size.2

theorem announcesPositive_of {s : Buffered F τ} {call : BufferCall} {sizes : List (UInt32 × UInt32)}
    (announces : Announced sizes s (bufferStep env s call)) :
    AnnouncesPositive env s call ↔ ∀ size ∈ sizes, 0 < size.1 ∧ 0 < size.2 := by
  rw [AnnouncesPositive, announces.drop]

end Calls

section Exact

variable {τ : Type} (env : BufferEnv ℚ τ)

/-- A report turns the buffer only when it has a size. If it gets past the turn, it resizes the
buffer only when the new source under the remembered scale is at least 1 by 1. -/
def Fits (s : Buffered ℚ τ) : BufferCall → Prop
  | .setWindowSize _ _ => True
  | .setDisplayInfo mode state force =>
    let turned := s.pixels.turned (isDisplayRotated state)
    let w := orientedWidth mode state
    let h := orientedHeight mode state
    (isDisplayRotated state ≠ s.pixels.mRotated → 0 < s.pixels.width ∧ 0 < s.pixels.height) ∧
    (TakesTurn env s (isDisplayRotated state) →
      AsksResize env turned w h force → 1 ≤ w.toNat * turned.mScaleX ∧ 1 ≤ h.toNat * turned.mScaleY)

theorem scaled_pos_iff (b : PixelBuffer ℚ) (w h : UInt32) :
    0 < (b.sourced w h).scaledWidth ∧ 0 < (b.sourced w h).scaledHeight ↔
      1 ≤ w.toNat * b.mScaleX ∧ 1 ≤ h.toNat * b.mScaleY :=
  and_congr toUInt32_pos_iff toUInt32_pos_iff

/-- The sizes announced after the rotation are positive exactly when the report fits. -/
theorem setSource_positive_iff (s : Buffered ℚ τ) (w h : UInt32) (force : Bool) :
    ∃ sizes, Announced sizes s (Outcomes.after (setSource env w h force) s) ∧
      ((∀ size ∈ sizes, 0 < size.1 ∧ 0 < size.2) ↔
        (AsksResize env s.pixels w h force → 1 ≤ w.toNat * s.pixels.mScaleX ∧ 1 ≤ h.toNat * s.pixels.mScaleY)) := by
  by_cases asks : AsksResize env s.pixels w h force
  · refine ⟨_, setSource_announces env asks, ?_⟩
    rw [List.forall_mem_singleton, scaled_pos_iff]
    exact ⟨fun fits _ => fits, fun fits => fits asks⟩
  · exact ⟨[], setSource_quiet env asks, by simp [asks]⟩

/-- A report announces only positive sizes exactly when it fits. -/
theorem setDisplayInfo_positive_iff (empty : env.accepts 0 0 = true) {s : Buffered ℚ τ}
    (sized : WellSized s.pixels) (mode : Size) (state : Rotation) (force : Bool) :
    ∃ sizes, Announced sizes s (Outcomes.after (setDisplayInfo env mode state force) s) ∧
      ((∀ size ∈ sizes, 0 < size.1 ∧ 0 < size.2) ↔ Fits env s (.setDisplayInfo mode state force)) := by
  rw [setDisplayInfo_eq]
  unfold Fits
  cases result : setBufferRotation env (isDisplayRotated state) s with
  | ok u s' =>
    have pixels := setBufferRotation_returned env result
    have returns : TakesTurn env s (isDisplayRotated state) :=
      (setBufferRotation_returns_iff env).mp ⟨u, s', result⟩
    obtain ⟨sizes, announces, positive⟩ :=
      setSource_positive_iff env s' (orientedWidth mode state) (orientedHeight mode state) force
    rw [pixels] at positive
    rw [Outcomes.after_bind_ok result]
    by_cases same : isDisplayRotated state = s.pixels.mRotated
    · rw [setBufferRotation_same env same] at result
      cases result
      refine ⟨sizes, announces, positive.trans ⟨fun fits => ?_, fun fits => fits.2 returns⟩⟩
      exact ⟨fun turns => absurd same turns, fun _ => fits⟩
    · cases accepted : env.accepts s.pixels.height s.pixels.width with
      | true =>
        have turn := setBufferRotation_announces env same accepted
        rw [Outcomes.after_ok result] at turn
        refine ⟨_, turn.trans announces, ?_⟩
        rw [List.forall_mem_append, List.forall_mem_singleton, positive]
        simp [same, returns, and_comm]
      | false =>
        rw [setBufferRotation_refused env same accepted] at result
        cases result
  | error u s' =>
    have throws : ¬TakesTurn env s (isDisplayRotated state) := by
      intro takes
      obtain ⟨_, _, ok⟩ := (setBufferRotation_returns_iff env).mpr takes
      rw [result] at ok
      cases ok
    have same : isDisplayRotated state ≠ s.pixels.mRotated := by
      intro same
      rw [setBufferRotation_same env same] at result
      cases result
    rw [Outcomes.after_bind_error result]
    cases accepted : env.accepts s.pixels.height s.pixels.width with
    | true =>
      have turn := setBufferRotation_announces env same accepted
      rw [Outcomes.after_error result] at turn
      refine ⟨_, turn, ?_⟩
      rw [List.forall_mem_singleton]
      simp [same, throws, and_comm]
    | false =>
      -- a refused turn is not one of the empty buffer, whose size the constructor has set
      have filled : 0 < s.pixels.width ∧ 0 < s.pixels.height := by
        refine sized.resolve_left ?_
        rintro ⟨width, height⟩
        rw [width, height, empty] at accepted
        cases accepted
      rw [setBufferRotation_refused env same accepted] at result
      cases result
      exact ⟨[], .none rfl rfl rfl, by simp [filled, throws]⟩

/-- What a call announces, and when all of it is positive. -/
theorem announces_iff (empty : env.accepts 0 0 = true) {s : Buffered ℚ τ} (sized : WellSized s.pixels)
    {call : BufferCall} (positive : call.Positive) :
    ∃ sizes, Announced sizes s (bufferStep env s call) ∧
      ((∀ size ∈ sizes, 0 < size.1 ∧ 0 < size.2) ↔ Fits env s call) := by
  cases call with
  | setDisplayInfo mode state force => exact setDisplayInfo_positive_iff env empty sized mode state force
  | setWindowSize width height =>
    obtain ⟨sizes, announces, same⟩ := setWindowSize_announces env s width height
    refine ⟨sizes, announces, iff_of_true (fun size member => ?_) trivial⟩
    rw [same size member]
    exact positive

/-! ### Runs -/

theorem wellSized_step (empty : env.accepts 0 0 = true) {s : Buffered ℚ τ} (sized : WellSized s.pixels)
    {call : BufferCall} (positive : call.Positive) (told : AnnouncesPositive env s call) :
    WellSized (bufferStep env s call).pixels := by
  obtain ⟨sizes, announces, _⟩ := announces_iff env empty sized positive
  rw [announcesPositive_of env announces] at told
  have size := announces.size
  cases last : sizes.getLast? with
  | none =>
    rw [List.getLast?_eq_none_iff.mp last, List.getLastD_nil, Prod.mk.injEq] at size
    rw [WellSized, size.1, size.2]
    exact sized
  | some final =>
    rw [List.getLastD_eq_getLast?, last, Option.getD_some] at size
    have member : final ∈ sizes := List.mem_of_getLast? last
    rw [← size] at member
    exact Or.inr (told _ member)

/-- From a new buffer, the calls of a run announce only positive sizes exactly when each fits. -/
theorem sizes_positive_along_run (empty : env.accepts 0 0 = true) (listener : τ)
    (clientWidth clientHeight sourceWidth sourceHeight : UInt32) (run : List BufferCall)
    (positive : ∀ call ∈ run, call.Positive) :
    let start : Buffered ℚ τ :=
      { pixels := .constructed clientWidth clientHeight sourceWidth sourceHeight, listener := listener }
    Runs.Along (bufferStep env) (AnnouncesPositive env) start run ↔
      Runs.Along (bufferStep env) (Fits env) start run := by
  refine Runs.along_iff (I := fun s => WellSized s.pixels) (Or.inl ⟨rfl, rfl⟩) ?_ ?_
  · intro s call member sized
    obtain ⟨sizes, announces, fits⟩ := announces_iff env empty sized (positive call member)
    rw [announcesPositive_of env announces, fits]
  · intro s call member sized told
    exact wellSized_step env empty sized (positive call member) told

end Exact

/-- Any size is taken, and the listener returns. -/
def BufferEnv.calm : BufferEnv ℚ Unit := ⟨fun _ _ => true, fun _ _ _ => pure ()⟩

theorem sizes_positive_upright :
    let start : Buffered ℚ Unit := { pixels := .constructed 0 0 0 0, listener := () }
    let run := [.setDisplayInfo ⟨1080, 1920⟩ .rotation0 true, .setWindowSize 540 960,
      .setDisplayInfo ⟨1080, 1920⟩ .rotation90 false]
    Runs.Along (bufferStep .calm) (AnnouncesPositive .calm) start run ↔
      Runs.Along (bufferStep .calm) (Fits .calm) start run :=
  sizes_positive_along_run .calm rfl () 0 0 0 0 _ (by decide)

/-- A first report of a turned display announces the empty buffer, and a small window makes a
later mode change announce an empty size. -/
theorem empty_sizes_announced :
    announced { pixels := .constructed 0 0 0 0, listener := () }
      (bufferStep .calm { pixels := .constructed 0 0 0 0, listener := () }
        (.setDisplayInfo ⟨1080, 1920⟩ .rotation90 true)) = [(0, 0), (1920, 1080)] ∧
    ([.setDisplayInfo ⟨1080, 1920⟩ .rotation0 true, .setWindowSize 1 1,
        .setDisplayInfo ⟨720, 1280⟩ .rotation0 false].foldl (bufferStep .calm)
      { pixels := .constructed 0 0 0 0, listener := () }).notified = [(1080, 1920), (1, 1), (0, 0)] := by
  decide +kernel

end VncFlinger.Display
