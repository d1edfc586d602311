import VncFlinger.Display.PixelBuffer

/-!
# The virtual display

What `VirtualDisplay` keeps, and the projection its constructor hands to SurfaceFlinger.
-/

namespace VncFlinger.Display

structure Projection where
  orientation : Rotation
  layerStackRect : Rect
  displayRect : Rect
  layerStack : UInt32
  deriving DecidableEq, Repr

structure VirtualDisplay where
  mWidth : UInt32
  mHeight : UInt32
  mLayerId : UInt32
  mSourceRect : Rect
  projection : Option Projection
  deriving DecidableEq, Repr

section Fitting

variable (F : Type) [Floats F]

def aspectRatio (mSourceRect : Rect) : F :=
  Floats.ofInt32 mSourceRect.getWidth / Floats.ofInt32 mSourceRect.getHeight

/-- The largest rectangle of the source's aspect ratio, centred in the buffer. -/
def letterbox (mWidth mHeight : UInt32) (mSourceRect : Rect) : Rect :=
  let aspect := aspectRatio F mSourceRect
  let narrow := mWidth ≤ Floats.toUInt32 (Floats.ofUInt32 mHeight * aspect)
  let outWidth := if narrow then mWidth else Floats.toUInt32 (Floats.ofUInt32 mHeight * aspect)
  let outHeight := if narrow then Floats.toUInt32 (Floats.ofUInt32 mWidth / aspect) else mHeight
  let offX := (mWidth - outWidth) / 2
  let offY := (mHeight - outHeight) / 2
  ⟨offX.toInt32, offY.toInt32, (offX + outWidth).toInt32, (offY + outHeight).toInt32⟩

def VirtualDisplay.getDisplayRect (vd : VirtualDisplay) : Rect :=
  letterbox F vd.mWidth vd.mHeight vd.mSourceRect

end Fitting

/-- The source rectangle of a mode: as it is, or on its side. -/
def sourceRect (mode : Size) (state : Rotation) : Rect :=
  if state = .rotation0 ∨ state = .rotation180 then .sized mode.width mode.height
  else .sized mode.height mode.width

section New

variable (F : Type) [Floats F]

def VirtualDisplay.new (mode : Size) (state : Rotation) (width height layerId : UInt32) : VirtualDisplay :=
  { mWidth := width, mHeight := height, mLayerId := layerId, mSourceRect := sourceRect mode state
    -- the test is on an unsigned member
    projection :=
      if 0 ≤ layerId then
        some ⟨state, sourceRect mode state, letterbox F width height (sourceRect mode state), layerId⟩
      else none }

theorem new_projection (mode : Size) (state : Rotation) (width height layerId : UInt32) :
    (VirtualDisplay.new F mode state width height layerId).projection =
      some ⟨state, sourceRect mode state, letterbox F width height (sourceRect mode state), layerId⟩ := by
  have unsigned : 0 ≤ layerId := UInt32.zero_le
  simp only [VirtualDisplay.new, if_pos unsigned]

end New

theorem sourceRect_injective {mode mode' : Size} {state : Rotation}
    (same : sourceRect mode' state = sourceRect mode state) : mode' = mode := by
  obtain ⟨width, height⟩ := mode
  obtain ⟨width', height'⟩ := mode'
  unfold sourceRect Rect.sized at same
  split at same
  · simp only [Rect.mk.injEq, true_and] at same
    rw [same.1, same.2]
  · simp only [Rect.mk.injEq, true_and] at same
    rw [same.1, same.2]

end VncFlinger.Display
