import VncFlinger.Library.Runs
import VncFlinger.Service.Command

/-!
# The cursor the server is told

`onCursorChanged` keeps the icon it last passed on and the id that came with it, and each of the two
may suppress the next callback. The icon is compared, so nothing is lost by it. An id is not an
icon: the custom ones share one.
-/

namespace VncFlinger.Service

/-- A callback: the id, the icon that came with it, and the one that loading the id gives. -/
structure CursorChange (PointerIcon : Type*) where
  iconId : Int32
  icon : Option PointerIcon
  loaded : PointerIcon
  deriving DecidableEq, Repr

variable {PointerIcon : Type*}

def CursorChange.reported (e : CursorChange PointerIcon) : PointerIcon := e.icon.getD e.loaded

/-- `notified` lists what `notifyServerCursorChanged` was given. -/
structure CursorCallback (PointerIcon : Type*) where
  mRemoteCursor : Bool := true
  mOldPointerIcon : Option PointerIcon := none
  mOldPointerIconId : Int32 := 0
  notified : List PointerIcon := []
  deriving DecidableEq, Repr

section

variable (equals : PointerIcon → PointerIcon → Bool)

def onCursorChanged (s : CursorCallback PointerIcon) (e : CursorChange PointerIcon) :
    CursorCallback PointerIcon :=
  if s.mRemoteCursor = false ∨ e.iconId = s.mOldPointerIconId then s
  else
    let icon := e.icon.getD e.loaded
    if s.mOldPointerIcon.any (equals · icon) then s
    else { s with
      notified := s.notified ++ [icon]
      mOldPointerIcon := some icon
      mOldPointerIconId := e.iconId }

def Told (s : CursorCallback PointerIcon) (e : CursorChange PointerIcon) : Prop :=
  ∃ last ∈ (onCursorChanged equals s e).notified.getLast?, equals last e.reported = true

/-- A callback with the id of the last icon passed on reports an icon equal to that. Before any is
passed on, none comes with the id 0. -/
def IdTells (s : CursorCallback PointerIcon) (e : CursorChange PointerIcon) : Prop :=
  e.iconId = s.mOldPointerIconId → ∃ last ∈ s.mOldPointerIcon, equals last e.reported = true

end

structure Remembers (s : CursorCallback PointerIcon) : Prop where
  remote : s.mRemoteCursor = true
  last : s.notified.getLast? = s.mOldPointerIcon

variable {equals : PointerIcon → PointerIcon → Bool} {s : CursorCallback PointerIcon}

/-- What a callback can do: it is suppressed by its id or by its icon, or it is passed on. -/
theorem onCursorChanged_cases (remote : s.mRemoteCursor = true) (e : CursorChange PointerIcon) :
    e.iconId = s.mOldPointerIconId ∧ onCursorChanged equals s e = s ∨
    e.iconId ≠ s.mOldPointerIconId ∧ (∃ last ∈ s.mOldPointerIcon, equals last e.reported = true) ∧
      onCursorChanged equals s e = s ∨
    e.iconId ≠ s.mOldPointerIconId ∧ onCursorChanged equals s e =
      { s with notified := s.notified ++ [e.reported], mOldPointerIcon := some e.reported
               mOldPointerIconId := e.iconId } := by
  unfold onCursorChanged
  by_cases same : e.iconId = s.mOldPointerIconId
  · left
    exact ⟨same, if_pos (Or.inr same)⟩
  · right
    have passes : ¬ (s.mRemoteCursor = false ∨ e.iconId = s.mOldPointerIconId) := by simp [remote, same]
    rw [if_neg passes]
    by_cases shown : s.mOldPointerIcon.any (equals · e.reported) = true
    · left
      refine ⟨same, ?_, if_pos shown⟩
      simpa [Option.any_eq_true] using shown
    · right
      exact ⟨same, if_neg shown⟩

theorem onCursorChanged_remembers (kept : Remembers s) (e : CursorChange PointerIcon) :
    Remembers (onCursorChanged equals s e) := by
  rcases onCursorChanged_cases kept.remote e with ⟨-, stays⟩ | ⟨-, -, stays⟩ | ⟨-, passed⟩
  · rw [stays]
    exact kept
  · rw [stays]
    exact kept
  · rw [passed]
    exact ⟨kept.remote, by simp⟩

theorem told_iff (reflexive : ∀ icon, equals icon icon = true) (kept : Remembers s)
    (e : CursorChange PointerIcon) : Told equals s e ↔ IdTells equals s e := by
  unfold Told IdTells
  rcases @onCursorChanged_cases _ equals s kept.remote e with
    ⟨same, stays⟩ | ⟨other, shown, stays⟩ | ⟨other, passed⟩
  · rw [stays, kept.last]
    exact ⟨fun told _ => told, fun told => told same⟩
  · rw [stays, kept.last]
    exact iff_of_true shown fun same => absurd same other
  · rw [passed]
    refine iff_of_true ⟨e.reported, ?_, reflexive _⟩ fun same => absurd same other
    simp

/-- After each callback of a run the server has the cursor reported, exactly if no id suppresses an
icon that differs from the last one passed on. -/
theorem cursor_told_iff (reflexive : ∀ icon, equals icon icon = true)
    (changes : List (CursorChange PointerIcon)) :
    Runs.Along (onCursorChanged equals) (Told equals) {} changes ↔
      Runs.Along (onCursorChanged equals) (IdTells equals) {} changes :=
  Runs.along_iff (I := Remembers) ⟨rfl, rfl⟩ (fun _ e _ kept => told_iff reflexive kept e)
    fun _ e _ kept _ => onCursorChanged_remembers kept e

def TYPE_CUSTOM : Int32 := -1

/-- An arrow, a custom icon, and the arrow again. Icons are told apart by a number. -/
def mixed : List (CursorChange Nat) := [⟨1000, none, 1⟩, ⟨TYPE_CUSTOM, some 2, 0⟩, ⟨1000, none, 1⟩]

theorem cursor_told_iff_mixed : (∀ icon : Nat, (icon == icon) = true) ∧
    Runs.Along (onCursorChanged (· == ·)) (Told (· == ·)) {} mixed := by
  have reflexive : ∀ icon : Nat, (icon == icon) = true := fun icon => beq_self_eq_true icon
  refine ⟨reflexive, (cursor_told_iff reflexive mixed).mpr ⟨?_, ?_, ?_, trivial⟩⟩ <;>
    exact fun same => absurd same (by decide)

def customs : List (CursorChange Nat) := [⟨TYPE_CUSTOM, some 1, 0⟩, ⟨TYPE_CUSTOM, some 2, 0⟩]

theorem second_custom_icon_dropped :
    (customs.foldl (onCursorChanged (· == ·)) {}).notified = [1] ∧
      ¬ Runs.Along (onCursorChanged (· == ·)) (Told (· == ·)) {} customs := by
  refine ⟨by decide, ?_⟩
  rintro ⟨-, ⟨last, told, same⟩, -⟩
  have first : last = 1 := by simpa [onCursorChanged, customs, TYPE_CUSTOM, eq_comm] using told
  rw [first] at same
  exact absurd same (by decide)

end VncFlinger.Service
