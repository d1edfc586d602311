import VncFlinger.Display.Sizes

/-!
# The window a client asks for

`setWindowSize` does nothing for the client size it remembers. A turn of the display that leaves
the source's size as it is puts the buffer on its side without that memory.
-/

namespace VncFlinger.Display

variable {F : Type} {p : Platform}

/-- A resize that succeeds has the size asked for, and one that is refused changes nothing. -/
def TakesEffect [Floats F] (p : Platform) : Option (Buffered F Desktop) → DesktopEvent → Prop
  | some s, .resize reqWidth reqHeight =>
    (∀ s', setScreenLayout p reqWidth reqHeight s = .ok true s' →
      (s'.pixels.width = reqWidth.toUInt32 ∧ s'.pixels.height = reqHeight.toUInt32) ∧
        s'.listener.server.screenLayout = some (reqWidth.toUInt32, reqHeight.toUInt32)) ∧
    ∀ s', setScreenLayout p reqWidth reqHeight s = .ok false s' →
      s'.pixels = s.pixels ∧ s'.listener.mVirtualDisplay = s.listener.mVirtualDisplay
  | _, _ => True

/-- The request is the remembered client size, and the buffer has that size on its side. -/
def LiesOnSide (b : PixelBuffer F) (width height : UInt32) : Prop :=
  (b.mClientWidth = width ∧ b.mClientHeight = height) ∧ (b.width = height ∧ b.height = width) ∧ width ≠ height

/-- A request that is looked at is not one for a client size that lies on its side. -/
def AsksAfresh : Option (Buffered F Desktop) → DesktopEvent → Prop
  | some s, .resize reqWidth reqHeight =>
    0 ≤ s.listener.mLayerId → 0 < reqWidth ∧ 0 < reqHeight →
    ¬(reqWidth = s.listener.mDisplayRect.getWidth ∧ reqHeight = s.listener.mDisplayRect.getHeight) →
      ¬LiesOnSide s.pixels reqWidth.toUInt32 reqHeight.toUInt32
  | _, _ => True

/-- The buffer has the client size, or that size on its side. -/
def FollowsClient (b : PixelBuffer F) : Prop :=
  b.width = b.mClientWidth ∧ b.height = b.mClientHeight ∨
    b.width = b.mClientHeight ∧ b.height = b.mClientWidth

theorem followsClient_turned {b : PixelBuffer F} (follows : FollowsClient b) (rotated : Bool) :
    FollowsClient (b.turned rotated) := by
  rw [PixelBuffer.turned]
  split_ifs
  · exact follows
  · rcases follows with ⟨width, height⟩ | ⟨width, height⟩
    · exact Or.inr ⟨height, width⟩
    · exact Or.inl ⟨height, width⟩

variable [Floats F]

theorem followsClient_followed (b : PixelBuffer F) : FollowsClient b.followed := Or.inl ⟨rfl, rfl⟩

theorem followsClient_reported {b : PixelBuffer F} (follows : FollowsClient b) (w h : UInt32) (force : Bool) :
    FollowsClient (b.reported w h force) := by
  rw [PixelBuffer.reported]
  split_ifs
  · exact follows
  · exact followsClient_followed _

theorem followsClient_asked {b : PixelBuffer F} (follows : FollowsClient b) (width height : UInt32) :
    FollowsClient (b.asked width height) := by
  rw [PixelBuffer.asked]
  split_ifs
  · exact follows
  · exact followsClient_followed _

/-- The size asked for is the size got, unless the remembered one lies on its side. -/
theorem asked_size_iff {b : PixelBuffer F} (follows : FollowsClient b) (width height : UInt32) :
    (b.asked width height).width = width ∧ (b.asked width height).height = height ↔
      ¬LiesOnSide b width height := by
  rw [PixelBuffer.asked, LiesOnSide]
  split_ifs with known
  · obtain ⟨clientWidth, clientHeight⟩ := known
    rw [FollowsClient, clientWidth, clientHeight] at follows
    rcases follows with ⟨w, h⟩ | ⟨w, h⟩
    · refine iff_of_true ⟨w, h⟩ ?_
      rintro ⟨_, ⟨side, _⟩, differs⟩
      exact differs (w.symm.trans side)
    · constructor
      · rintro ⟨w', _⟩ ⟨_, _, differs⟩
        exact differs (w'.symm.trans w)
      · intro straight
        have square : width = height := by
          by_contra differs
          exact straight ⟨⟨clientWidth, clientHeight⟩, ⟨w, h⟩, differs⟩
        exact ⟨w.trans square.symm, h.trans square⟩
  · exact iff_of_true ⟨rfl, rfl⟩ fun side => known side.1

theorem asked_filled {b : PixelBuffer F} (follows : FollowsClient b) {width height : UInt32}
    (filled : 0 < width ∧ 0 < height) : 0 < (b.asked width height).width ∧ 0 < (b.asked width height).height := by
  by_cases side : LiesOnSide b width height
  · rw [PixelBuffer.asked, if_pos side.1, side.2.1.1, side.2.1.2]
    exact ⟨filled.2, filled.1⟩
  · obtain ⟨w, h⟩ := (asked_size_iff follows width height).mpr side
    rw [w, h]
    exact filled

/-! ### One resize -/

/-- A positive request that is looked at. -/
theorem resize_asked (sizes : ∀ w h, p.setSizeAccepts w h = true) (serves : p.ServesFilled)
    {s : Buffered F Desktop} (follows : FollowsClient s.pixels) {reqWidth reqHeight : Int32}
    (mirror : ¬s.listener.mLayerId < 0) (filled : 0 < reqWidth ∧ 0 < reqHeight)
    (new : ¬(reqWidth = s.listener.mDisplayRect.getWidth ∧ reqHeight = s.listener.mDisplayRect.getHeight)) :
    ∃ s', setScreenLayout p reqWidth reqHeight s = .ok true s' ∧
      s'.pixels = s.pixels.asked reqWidth.toUInt32 reqHeight.toUInt32 ∧
      s'.listener.server.screenLayout = some (s'.pixels.width, s'.pixels.height) := by
  have positive : 0 < reqWidth.toUInt32 ∧ 0 < reqHeight.toUInt32 :=
    ⟨UInt32.pos_iff_ne_zero.mpr (toUInt32_ne_zero filled.1),
      UInt32.pos_iff_ne_zero.mpr (toUInt32_ne_zero filled.2)⟩
  have run := setScreenLayout_apply (p := p) reqWidth reqHeight s
  rw [if_neg mirror, if_neg new, if_pos filled] at run
  obtain ⟨_, middle, window⟩ := setWindowSize_returns sizes serves positive s
  have pixels := setWindowSize_returned window
  have taken : p.setScreenLayoutReturns middle.pixels.width middle.pixels.height = true := by
    rw [pixels]
    exact (serves.screenLayout _ _).mpr (asked_filled follows positive)
  rw [Outcomes.bind_ok window, Outcomes.bind_ok (getPixels_apply middle),
    Outcomes.bind_ok (layout_given taken)] at run
  exact ⟨_, run, pixels, rfl⟩

/-- A resize that is not looked at leaves the buffer and the virtual display. -/
theorem resize_refused {s : Buffered F Desktop} {reqWidth reqHeight : Int32}
    (refused : s.listener.mLayerId < 0 ∨
      reqWidth = s.listener.mDisplayRect.getWidth ∧ reqHeight = s.listener.mDisplayRect.getHeight ∨
      ¬(0 < reqWidth ∧ 0 < reqHeight)) :
    ∃ s', setScreenLayout p reqWidth reqHeight s = .ok false s' ∧ s'.pixels = s.pixels ∧
      s'.listener.mVirtualDisplay = s.listener.mVirtualDisplay := by
  rw [setScreenLayout_apply]
  split_ifs with virtual shown filled
  · exact ⟨_, rfl, rfl, (sameGeometry_callback p s.listener).display⟩
  · exact ⟨s, rfl, rfl, rfl⟩
  · exfalso
    rcases refused with virtual' | shown' | empty
    · exact virtual virtual'
    · exact shown shown'
    · exact empty filled
  · exact ⟨s, rfl, rfl, rfl⟩

theorem takesEffect_iff (sizes : ∀ w h, p.setSizeAccepts w h = true) (serves : p.ServesFilled)
    {s : Buffered F Desktop} (follows : FollowsClient s.pixels) (event : DesktopEvent) :
    TakesEffect p (some s) event ↔ AsksAfresh (some s) event := by
  cases event with
  | update => exact Iff.rfl
  | props => exact Iff.rfl
  | resize reqWidth reqHeight =>
    unfold TakesEffect AsksAfresh
    simp only
    by_cases refused : s.listener.mLayerId < 0 ∨
        reqWidth = s.listener.mDisplayRect.getWidth ∧ reqHeight = s.listener.mDisplayRect.getHeight ∨
        ¬(0 < reqWidth ∧ 0 < reqHeight)
    · obtain ⟨s', run, pixels, display⟩ := resize_refused (p := p) refused
      rw [run]
      refine iff_of_true ⟨fun s'' ok => (nomatch ok), fun s'' ok => ?_⟩ fun mirror filled new => ?_
      · cases ok
        exact ⟨pixels, display⟩
      · rcases refused with virtual | shown | empty
        · exact absurd mirror (Int32.not_le.mpr virtual)
        · exact absurd shown new
        · exact absurd filled empty
    · obtain ⟨mirror, looked⟩ := not_or.mp refused
      obtain ⟨new, filled⟩ := not_or.mp looked
      have filled := not_not.mp filled
      obtain ⟨s', run, pixels, layout⟩ := resize_asked sizes serves follows mirror filled new
      have size := asked_size_iff follows reqWidth.toUInt32 reqHeight.toUInt32
      rw [← pixels] at size
      rw [run]
      constructor
      · intro effect _ _ _
        exact size.mp (effect.1 s' rfl).1
      · intro afresh
        have straight := size.mpr (afresh (Int32.not_lt.mp mirror) filled new)
        refine ⟨fun s'' ok => ?_, fun s'' ok => nomatch ok⟩
        cases ok
        rw [layout, straight.1, straight.2]
        exact ⟨⟨rfl, rfl⟩, rfl⟩

/-! ### Runs -/

def RunningFollows (s : Option (Buffered F Desktop)) : Prop := ∀ running ∈ s, FollowsClient running.pixels

theorem follows_update {q : Queries} {s s' : Buffered F Desktop} (follows : FollowsClient s.pixels)
    {status : UpdateStatus} (ok : updateDisplayInfo p q false s = .ok status s') : FollowsClient s'.pixels := by
  cases update_returned ok with
  | nothing same =>
    rw [same]
    exact follows
  | modeOnly only shown =>
    rw [shown]
    exact follows
  | both both info =>
    rw [setDisplayInfo_returned info]
    exact followsClient_reported (followsClient_turned follows _) _ _ false

theorem follows_resize (sizes : ∀ w h, p.setSizeAccepts w h = true) (serves : p.ServesFilled)
    {s : Buffered F Desktop} (follows : FollowsClient s.pixels) (reqWidth reqHeight : Int32) :
    FollowsClient (Outcomes.after (setScreenLayout p reqWidth reqHeight) s).pixels := by
  by_cases refused : s.listener.mLayerId < 0 ∨
      reqWidth = s.listener.mDisplayRect.getWidth ∧ reqHeight = s.listener.mDisplayRect.getHeight ∨
      ¬(0 < reqWidth ∧ 0 < reqHeight)
  · obtain ⟨s', run, pixels, _⟩ := resize_refused (p := p) refused
    rw [Outcomes.after_ok run, pixels]
    exact follows
  · obtain ⟨mirror, looked⟩ := not_or.mp refused
    obtain ⟨new, filled⟩ := not_or.mp looked
    obtain ⟨s', run, pixels, _⟩ := resize_asked sizes serves follows mirror (not_not.mp filled) new
    rw [Outcomes.after_ok run, pixels]
    exact followsClient_asked follows _ _

theorem follows_step (sizes : ∀ w h, p.setSizeAccepts w h = true) (serves : p.ServesFilled)
    {s : Option (Buffered F Desktop)} (follows : RunningFollows s) (event : DesktopEvent) :
    RunningFollows (desktopStep p s event) := by
  intro running member
  obtain ⟨before, here, left⟩ := desktopStep_left member
  have follows := follows before here
  cases left with
  | update result => exact follows_update follows result
  | resize reqWidth reqHeight => exact follows_resize sizes serves follows reqWidth reqHeight
  | props => exact follows

theorem follows_start {q : Queries} {clientWidth clientHeight sourceWidth sourceHeight : UInt32}
    {device : Input.Device} {d : Desktop} {s : Buffered F Desktop}
    (started : start p q (allocate (.constructed clientWidth clientHeight sourceWidth sourceHeight) device d) =
      .ok true s) : FollowsClient s.pixels := by
  obtain ⟨mode, state, middle, _, info, final⟩ := start_returned started
  have pixels := start_reported info
  rw [final]
  show FollowsClient middle.pixels
  rw [pixels]
  exact Or.inl ⟨rfl, rfl⟩

theorem windows_take_effect_along_run (sizes : ∀ w h, p.setSizeAccepts w h = true) (serves : p.ServesFilled)
    {q : Queries} {clientWidth clientHeight sourceWidth sourceHeight : UInt32} {device : Input.Device}
    {d : Desktop} {s : Buffered F Desktop}
    (started : start p q (allocate (.constructed clientWidth clientHeight sourceWidth sourceHeight) device d) =
      .ok true s) (run : List DesktopEvent) :
    Runs.Along (desktopStep p) (TakesEffect p) (some s) run ↔ Runs.Along (desktopStep p) AsksAfresh (some s) run := by
  refine Runs.along_iff (I := RunningFollows) ?_ ?_ ?_
  · intro running same
    cases same
    exact follows_start started
  · intro state event _ follows
    cases state with
    | none => exact Iff.rfl
    | some s => exact takesEffect_iff sizes serves (follows s rfl) event
  · intro state event _ follows _
    exact follows_step sizes serves follows event

/-- A report of a square display. -/
def square (state : Rotation) : Queries := ⟨true, some ⟨1080, 1080⟩, some state⟩

def squared : Buffered Single Desktop :=
  Outcomes.after (start .serving (square .rotation0))
    (allocate (.constructed 0 0 0 0) .closed { mLayerId := 0, mInputDevice := .closed })

theorem start_squared : start .serving (square .rotation0)
    (allocate (.constructed 0 0 0 0) .closed { mLayerId := 0, mInputDevice := .closed }) = .ok true squared :=
  Outcomes.ok_of_value (by decide +kernel)

theorem windows_take_effect_squared :
    Runs.Along (desktopStep .serving) (TakesEffect .serving) (some squared)
        [.resize 540 960, .update (square .rotation90), .resize 960 540] ↔
      Runs.Along (desktopStep .serving) AsksAfresh (some squared)
        [.resize 540 960, .update (square .rotation90), .resize 960 540] :=
  windows_take_effect_along_run (fun _ _ => rfl) serving_filled start_squared _

/-- A client asks again for its window after the square display has turned. -/
theorem turned_window_not_restored :
    start .serving (square .rotation0)
      (allocate (.constructed 0 0 0 0) .closed { mLayerId := 0, mInputDevice := .closed }) = .ok true squared ∧
    ¬Runs.Along (desktopStep .serving) (TakesEffect .serving) (some squared)
      [.resize 540 960, .update (square .rotation90), .resize 540 960] := by
  have sized : Outcomes.value (updateDisplayInfo .serving (square .rotation90) false)
      (Outcomes.after (setScreenLayout .serving 540 960) squared) = some .noError := by
    decide +kernel
  let turned := Outcomes.after (updateDisplayInfo .serving (square .rotation90) false)
    (Outcomes.after (setScreenLayout .serving 540 960) squared)
  have update : desktopStep .serving (desktopStep .serving (some squared) (.resize 540 960))
      (.update (square .rotation90)) = some turned := by
    rw [desktopStep, desktopStep, Outcomes.ok_of_value sized]
  have success : Outcomes.value (setScreenLayout .serving 540 960) turned = some true := by decide +kernel
  have width : (Outcomes.after (setScreenLayout .serving 540 960) turned).pixels.width = 960 := by
    decide +kernel
  refine ⟨start_squared, ?_⟩
  rintro ⟨_, _, effect, _⟩
  rw [update] at effect
  have taken := (effect.1 _ (Outcomes.ok_of_value success)).1.1
  rw [width] at taken
  exact absurd taken (by decide)

end VncFlinger.Display
