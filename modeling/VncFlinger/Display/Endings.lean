import VncFlinger.Display.BufferSize

/-!
# How a call of the pixel buffer ends

The size of the buffer changes only on the way to telling the listener. So whatever the listener
makes true of a size it is told holds of the buffer's size after any call.
-/

namespace VncFlinger.Display

variable {F τ : Type} (env : BufferEnv F τ)

def SameSize (b b' : PixelBuffer F) : Prop := b'.width = b.width ∧ b'.height = b.height

def ClientSized (b : PixelBuffer F) : Prop := b.mClientWidth = b.width ∧ b.mClientHeight = b.height

instance : DecidablePred (ClientSized : PixelBuffer F → Prop) := fun b =>
  inferInstanceAs (Decidable (b.mClientWidth = b.width ∧ b.mClientHeight = b.height))

/-- The results of a call that touches the size at most once. -/
inductive Ends (s : Buffered F τ) : EStateM.Result Unit (Buffered F τ) Unit → Prop
  | quiet {b : PixelBuffer F} (same : SameSize s.pixels b) : Ends s (.ok () (s.with b))
  | refused {b : PixelBuffer F} (same : SameSize s.pixels b) {w h : UInt32}
      (refused : env.accepts w h = false) : Ends s (.error () (s.with b))
  | told {b : PixelBuffer F} (accepted : env.accepts b.width b.height = true) : Ends s (notify env (s.with b))

theorem Ends.of_with {s : Buffered F τ} {b : PixelBuffer F} {r : EStateM.Result Unit (Buffered F τ) Unit}
    (same : SameSize s.pixels b) (ends : Ends env (s.with b) r) : Ends env s r := by
  cases ends with
  | quiet same' => exact .quiet ⟨same'.1.trans same.1, same'.2.trans same.2⟩
  | refused same' refused => exact .refused ⟨same'.1.trans same.1, same'.2.trans same.2⟩ refused
  | told accepted => exact .told accepted

theorem ends_setBufferRotation (rotated : Bool) (s : Buffered F τ) :
    Ends env s (setBufferRotation env rotated s) := by
  by_cases same : rotated = s.pixels.mRotated
  · rw [setBufferRotation_same env same]
    exact .quiet (b := s.pixels) ⟨rfl, rfl⟩
  · cases accepted : env.accepts s.pixels.height s.pixels.width with
    | true =>
      rw [setBufferRotation_accepted env same accepted]
      refine .told ?_
      rw [PixelBuffer.turned, if_neg same]
      exact accepted
    | false =>
      rw [setBufferRotation_refused env same accepted]
      exact .refused (b := { s.pixels with mRotated := rotated }) ⟨rfl, rfl⟩ accepted

/-! ### After a call, however it ends -/

/-- `H` holds of the size and the listener, or neither has changed. -/
def Fresh (H : UInt32 → UInt32 → τ → Prop) (s s' : Buffered F τ) : Prop :=
  H s'.pixels.width s'.pixels.height s'.listener ∨ SameSize s.pixels s'.pixels ∧ s'.listener = s.listener

variable {env} {G : τ → Prop} {H : UInt32 → UInt32 → τ → Prop}

theorem Fresh.trans {s s' s'' : Buffered F τ} (first : Fresh H s s') (second : Fresh H s' s'') :
    Fresh H s s'' := by
  rcases second with fresh | ⟨size, listener⟩
  · exact Or.inl fresh
  · rcases first with fresh | ⟨size', listener'⟩
    · rw [← size.1, ← size.2, ← listener] at fresh
      exact Or.inl fresh
    · exact Or.inr ⟨⟨size.1.trans size'.1, size.2.trans size'.2⟩, listener.trans listener'⟩

theorem Fresh.holds {s s' : Buffered F τ} (fresh : Fresh H s s')
    (held : H s.pixels.width s.pixels.height s.listener) : H s'.pixels.width s'.pixels.height s'.listener := by
  rcases fresh with now | ⟨size, listener⟩
  · exact now
  · rw [size.1, size.2, listener]
    exact held

/-- A listener with `G` keeps it and establishes `H` when it is told a size, even if it throws. -/
def Hears (env : BufferEnv F τ) (G : τ → Prop) (H : UInt32 → UInt32 → τ → Prop) : Prop :=
  ∀ b listener, G listener → env.accepts b.width b.height = true →
    G (env.told b listener) ∧ H b.width b.height (env.told b listener)

def Informs (G : τ → Prop) (H : UInt32 → UInt32 → τ → Prop) (x : BufferM F τ Unit) : Prop :=
  ∀ s, G s.listener → G (Outcomes.after x s).listener ∧ Fresh H s (Outcomes.after x s)

theorem informs_of_ends (hears : Hears env G H) {x : BufferM F τ Unit} (ends : ∀ s, Ends env s (x s)) :
    Informs G H x := by
  intro s good
  have ends := ends s
  generalize result : x s = r at ends
  cases ends with
  | quiet same =>
    rw [Outcomes.after_ok result]
    exact ⟨good, Or.inr ⟨same, rfl⟩⟩
  | refused same _ =>
    rw [Outcomes.after_error result]
    exact ⟨good, Or.inr ⟨same, rfl⟩⟩
  | told accepted =>
    rw [Outcomes.after_congr result, after_notify]
    obtain ⟨kept, heard⟩ := hears _ s.listener good accepted
    exact ⟨kept, Or.inl heard⟩

theorem informs_bind {x y : BufferM F τ Unit} (first : Informs G H x) (second : Informs G H y) :
    Informs G H (do x; y) := by
  intro s good
  obtain ⟨kept, fresh⟩ := first s good
  cases result : x s with
  | ok u s' =>
    rw [Outcomes.after_ok result] at kept fresh
    obtain ⟨kept', fresh'⟩ := second s' kept
    rw [Outcomes.after_bind_ok result]
    exact ⟨kept', fresh.trans fresh'⟩
  | error u s' =>
    rw [Outcomes.after_error result] at kept fresh
    rw [Outcomes.after_bind_error result]
    exact ⟨kept, fresh⟩

/-! ### After a call that returns -/

/-- A listener that returns establishes `H` of the size it was told. -/
def Answers (env : BufferEnv F τ) (H : UInt32 → UInt32 → τ → Prop) : Prop :=
  ∀ b listener listener', env.onBufferDimensionsChanged b b.width b.height listener = .ok () listener' →
    H b.width b.height listener'

theorem fresh_of_ends (answers : Answers env H) {s s' : Buffered F τ}
    {r : EStateM.Result Unit (Buffered F τ) Unit} (ends : Ends env s r) (ok : r = .ok () s') : Fresh H s s' := by
  cases ends with
  | quiet same =>
    cases ok
    exact Or.inr ⟨same, rfl⟩
  | refused => cases ok
  | @told b accepted =>
    obtain ⟨listener, returned⟩ := (notify_returns_iff env (s.with b)).mp ⟨_, _, ok⟩
    have after := after_notify env (s.with b)
    rw [Outcomes.after_ok ok, BufferEnv.told, Outcomes.after_ok returned] at after
    rw [after]
    exact Or.inl (answers b s.listener listener returned)

theorem sized_same {b : PixelBuffer F} {w h : UInt32} (same : w = b.width ∧ h = b.height) : b.sized w h = b := by
  rw [PixelBuffer.sized, same.1, same.2]

theorem notify_returned {s s' : Buffered F τ} {u : Unit} (ok : notify env s = .ok u s') :
    s'.pixels = s.pixels := by
  have after := after_notify env s
  rw [Outcomes.after_ok ok] at after
  rw [after]

/-! ### The calls -/

variable [Floats F]

section

variable (env)

theorem ends_followClient (s : Buffered F τ) : Ends env s (followClient env s) := by
  rw [followClient_apply]
  simp only
  split_ifs with same accepted
  · exact .quiet ⟨rfl, rfl⟩
  · exact .told (b := (s.pixels.windowed _ _).sized _ _) accepted
  · exact .refused (b := s.pixels.windowed _ _) ⟨rfl, rfl⟩ (Bool.eq_false_iff.mpr accepted)

theorem ends_setSource (w h : UInt32) (force : Bool) (s : Buffered F τ) :
    Ends env s (setSource env w h force s) := by
  rw [setSource_apply]
  split_ifs
  · exact .quiet (b := s.pixels) ⟨rfl, rfl⟩
  · have sourced : SameSize s.pixels ((s.pixels.sourced w h).clientSized
        (s.pixels.sourced w h).scaledWidth (s.pixels.sourced w h).scaledHeight) := ⟨rfl, rfl⟩
    exact Ends.of_with env sourced (ends_followClient env _)

theorem ends_setWindowSize (width height : UInt32) (s : Buffered F τ) :
    Ends env s (setWindowSize env width height s) := by
  rw [setWindowSize_apply]
  split_ifs
  · exact .quiet (b := s.pixels) ⟨rfl, rfl⟩
  · have sized : SameSize s.pixels (s.pixels.clientSized width height) := ⟨rfl, rfl⟩
    exact Ends.of_with env sized (ends_followClient env _)

end

theorem informs_setWindowSize (hears : Hears env G H) (width height : UInt32) :
    Informs G H (setWindowSize env width height) :=
  informs_of_ends hears (ends_setWindowSize env width height)

theorem informs_setDisplayInfo (hears : Hears env G H) (mode : Size) (state : Rotation) (force : Bool) :
    Informs G H (setDisplayInfo env mode state force) := by
  rw [setDisplayInfo_eq]
  exact informs_bind (informs_of_ends hears (ends_setBufferRotation env _))
    (informs_of_ends hears (ends_setSource env _ _ force))

theorem fresh_setDisplayInfo (answers : Answers env H) {mode : Size} {state : Rotation} {force : Bool}
    {s s' : Buffered F τ} (ok : setDisplayInfo env mode state force s = .ok () s') : Fresh H s s' := by
  rw [setDisplayInfo_eq] at ok
  obtain ⟨_, middle, turned, sourced⟩ := Outcomes.bind_returns ok
  exact (fresh_of_ends answers (ends_setBufferRotation env _ s) turned).trans
    (fresh_of_ends answers (ends_setSource env _ _ force middle) sourced)

/-- The client decides on the size of the buffer, too. -/
def PixelBuffer.followed (b : PixelBuffer F) : PixelBuffer F :=
  (b.windowed b.mClientWidth b.mClientHeight).sized b.mClientWidth b.mClientHeight

/-- The source decides on the client size under the remembered scale. -/
def PixelBuffer.rescaled (b : PixelBuffer F) : PixelBuffer F :=
  (b.clientSized b.scaledWidth b.scaledHeight).followed

def PixelBuffer.reported (b : PixelBuffer F) (w h : UInt32) (force : Bool) : PixelBuffer F :=
  if w = b.mSourceWidth ∧ h = b.mSourceHeight ∧ force = false then b else (b.sourced w h).rescaled

theorem followClient_returned {s s' : Buffered F τ} {u : Unit} (ok : followClient env s = .ok u s') :
    s'.pixels = s.pixels.followed := by
  rw [followClient_apply] at ok
  simp only at ok
  split_ifs at ok with same accepted
  · cases ok
    exact (sized_same (b := s.pixels.windowed _ _) same).symm
  · exact notify_returned ok

theorem setSource_returned {w h : UInt32} {force : Bool} {s s' : Buffered F τ} {u : Unit}
    (ok : setSource env w h force s = .ok u s') : s'.pixels = s.pixels.reported w h force := by
  rw [setSource_apply] at ok
  rw [PixelBuffer.reported]
  split_ifs at ok ⊢ with known
  · cases ok
    rfl
  · exact followClient_returned ok

def PixelBuffer.asked (b : PixelBuffer F) (width height : UInt32) : PixelBuffer F :=
  if b.mClientWidth = width ∧ b.mClientHeight = height then b else (b.clientSized width height).followed

theorem setWindowSize_returned {width height : UInt32} {s s' : Buffered F τ} {u : Unit}
    (ok : setWindowSize env width height s = .ok u s') : s'.pixels = s.pixels.asked width height := by
  rw [setWindowSize_apply] at ok
  rw [PixelBuffer.asked]
  split_ifs at ok ⊢ with known
  · cases ok
    rfl
  · exact followClient_returned ok

/-- Two things may happen to the buffer in one report: a turn, and then a resize. -/
theorem setDisplayInfo_returned {mode : Size} {state : Rotation} {force : Bool} {s s' : Buffered F τ} {u : Unit}
    (ok : setDisplayInfo env mode state force s = .ok u s') :
    s'.pixels = (s.pixels.turned (isDisplayRotated state)).reported
      (orientedWidth mode state) (orientedHeight mode state) force := by
  rw [setDisplayInfo_eq] at ok
  obtain ⟨_, middle, turned, sourced⟩ := Outcomes.bind_returns ok
  rw [setSource_returned sourced, setBufferRotation_returned env turned]

/-! ### The first report -/

/-- A size at the scale 1. -/
def unscaled (F : Type) [Floats F] (w : UInt32) : UInt32 := Floats.toUInt32 (Floats.ofUInt32 w * (1 : F))

/-- What the first forced report makes of a new buffer: the source's size at scale 1. -/
def PixelBuffer.first (rotated : Bool) (w h : UInt32) : PixelBuffer F :=
  { width := unscaled F w, height := unscaled F h, mRotated := rotated
    mClientWidth := unscaled F w, mClientHeight := unscaled F h
    mSourceWidth := w, mSourceHeight := h
    mScaleX := Floats.ofUInt32 (unscaled F w) / Floats.ofUInt32 w
    mScaleY := Floats.ofUInt32 (unscaled F h) / Floats.ofUInt32 h }

theorem reported_constructed (clientWidth clientHeight sourceWidth sourceHeight : UInt32) (rotated : Bool)
    (w h : UInt32) :
    ((PixelBuffer.constructed clientWidth clientHeight sourceWidth sourceHeight : PixelBuffer F).turned
      rotated).reported w h true = .first rotated w h := by
  have turned : (PixelBuffer.constructed clientWidth clientHeight sourceWidth sourceHeight : PixelBuffer F).turned
      rotated = { PixelBuffer.constructed clientWidth clientHeight sourceWidth sourceHeight with
        mRotated := rotated } := by
    cases rotated <;> rfl
  rw [turned, PixelBuffer.reported, if_neg (fun known => Bool.noConfusion known.2.2)]
  rfl

/-- A buffer that has been told no size yet. -/
structure Sizeless (b : PixelBuffer F) : Prop where
  width : b.width = 0
  height : b.height = 0
  scaleX : b.mScaleX = 1
  scaleY : b.mScaleY = 1

theorem sizeless_constructed (clientWidth clientHeight sourceWidth sourceHeight : UInt32) :
    Sizeless (.constructed clientWidth clientHeight sourceWidth sourceHeight : PixelBuffer F) :=
  ⟨rfl, rfl, rfl, rfl⟩

theorem Sizeless.turned {b : PixelBuffer F} (sizeless : Sizeless b) (rotated : Bool) :
    Sizeless (b.turned rotated) := by
  rw [PixelBuffer.turned]
  split_ifs
  · exact sizeless
  · exact ⟨sizeless.height, sizeless.width, sizeless.scaleY, sizeless.scaleX⟩

/-- A source that is new to such a buffer gives it its first size. -/
theorem setSource_sizeless (env : BufferEnv F τ) {s : Buffered F τ} (sizeless : Sizeless s.pixels) {w h : UInt32} {force : Bool}
    (new : ¬(w = s.pixels.mSourceWidth ∧ h = s.pixels.mSourceHeight ∧ force = false)) (filled : w ≠ 0) :
    setSource env w h force s =
      let first := PixelBuffer.first s.pixels.mRotated w h
      if env.accepts first.width first.height then notify env (s.with first)
      else .error () (s.with (first.sized 0 0)) := by
  obtain ⟨⟨width, height, rotated, clientWidth, clientHeight, sourceWidth, sourceHeight, scaleX, scaleY⟩, d,
    notified⟩ := s
  obtain ⟨rfl, rfl, rfl, rfl⟩ := sizeless
  have differs : ¬(unscaled F w = 0 ∧ unscaled F h = 0) := fun same => Floats.unscaled_ne_zero filled same.1
  rw [setSource_apply, if_neg new]
  exact (followClient_apply env _).trans (if_neg differs)

theorem unscaled_exact (w : UInt32) : unscaled ℚ w = w := by
  rw [unscaled, ofUInt32_exact, toUInt32_exact, mul_one, toUInt32_natCast]

theorem first_exact (rotated : Bool) (w h : UInt32) : (PixelBuffer.first rotated w h : PixelBuffer ℚ) =
    { width := w, height := h, mRotated := rotated, mClientWidth := w, mClientHeight := h
      mSourceWidth := w, mSourceHeight := h
      mScaleX := w.toNat / w.toNat, mScaleY := h.toNat / h.toNat } := by
  rw [PixelBuffer.first, unscaled_exact, unscaled_exact]
  rfl

end VncFlinger.Display
