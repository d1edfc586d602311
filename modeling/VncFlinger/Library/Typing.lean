import VncFlinger.Library.Strokes

/-!
# Reading typed text

A reader of strokes that knows a keyboard's layout. A press gives a character unless its key is
held already or a muting key is held, and which one depends on whether a shifting key is held.
-/

namespace Typing

variable {κ γ : Type*} [DecidableEq κ]

structure Layout (κ γ : Type*) where
  shifting : List κ
  muting : List κ
  char : κ → Bool → Option γ

variable (layout : Layout κ γ)

def Layout.shifted (held : Finset κ) : Bool := layout.shifting.any fun k => decide (k ∈ held)

def Layout.muted (held : Finset κ) : Bool := layout.muting.any fun k => decide (k ∈ held)

def Layout.given (held : Finset κ) (stroke : κ × Bool) : Option γ :=
  if stroke.2 = false ∨ stroke.1 ∈ held ∨ layout.muted held = true then none
  else layout.char stroke.1 (layout.shifted held)

def Layout.text (layout : Layout κ γ) : Finset κ → List (κ × Bool) → List γ
  | _, [] => []
  | held, stroke :: rest => (layout.given held stroke).toList ++ layout.text (Strokes.apply held stroke) rest

variable {layout} {held : Finset κ}

@[simp] theorem text_nil : layout.text held [] = [] := rfl

@[simp] theorem text_cons (stroke : κ × Bool) (rest : List (κ × Bool)) : layout.text held (stroke :: rest) =
    (layout.given held stroke).toList ++ layout.text (Strokes.apply held stroke) rest := rfl

theorem text_append (first second : List (κ × Bool)) : layout.text held (first ++ second) =
    layout.text held first ++ layout.text (Strokes.replay held first) second := by
  induction first generalizing held with
  | nil => rfl
  | cons stroke rest ih => rw [List.cons_append, text_cons, text_cons, ih, List.append_assoc, Strokes.replay_cons]

theorem given_release (k : κ) : layout.given held (k, false) = none := if_pos (Or.inl rfl)

/-- A key without a character, such as a modifier, is not seen in the text. -/
theorem given_silent {k : κ} (silent : ∀ shift, layout.char k shift = none) (down : Bool) :
    layout.given held (k, down) = none := by
  unfold Layout.given
  split
  · rfl
  · exact silent _

theorem given_held {k : κ} (down : k ∈ held) : layout.given held (k, true) = none :=
  if_pos (Or.inr (Or.inl down))

theorem given_press {k : κ} (up : k ∉ held) (loud : layout.muted held = false) :
    layout.given held (k, true) = layout.char k (layout.shifted held) := by
  refine if_neg ?_
  rintro (release | down | muted)
  · cases release
  · exact up down
  · rw [loud] at muted
    cases muted

/-- Keys that are released give no text. -/
theorem text_releases {strokes : List (κ × Bool)} (releases : ∀ stroke ∈ strokes, stroke.2 = false) :
    layout.text held strokes = [] := by
  induction strokes generalizing held with
  | nil => rfl
  | cons stroke rest ih =>
    obtain ⟨k, down⟩ := stroke
    have up : down = false := releases _ List.mem_cons_self
    rw [text_cons, up, given_release, ih fun stroke member => releases stroke (List.mem_cons_of_mem _ member)]
    rfl

end Typing
