import Mathlib.Data.List.Basic

/-!
# Logs that alternate

`Alternates flip b` says of a list of values that the first is `flip b` and each other one the
flip of the value before it. A writer that writes a wanted value exactly when it differs from the
last one it wrote produces such a log, and the log ends with the value last wanted.
-/

namespace Toggle

variable {α : Type*} {flip : α → α}

/-- The values alternate, beginning with the flip of `b`. -/
def Alternates (flip : α → α) : α → List α → Prop
  | _, [] => True
  | b, v :: rest => v = flip b ∧ Alternates flip v rest

/-- What a writer that last wrote `b` writes when `want` is asked for. -/
def follow [DecidableEq α] (b want : α) : List α := if want = b then [] else [want]

theorem alternates_append {b : α} {first second : List α} :
    Alternates flip b (first ++ second) ↔
      Alternates flip b first ∧ Alternates flip (first.getLastD b) second := by
  induction first generalizing b with
  | nil => simp [Alternates]
  | cons v rest ih => rw [List.cons_append, Alternates, Alternates, ih, List.getLastD_cons, and_assoc]

theorem getLastD_append (b : α) (first second : List α) :
    (first ++ second).getLastD b = second.getLastD (first.getLastD b) := by
  induction first generalizing b with
  | nil => rfl
  | cons v rest ih => rw [List.cons_append, List.getLastD_cons, List.getLastD_cons, ih]

/-- Following one wanted value continues an alternating log, and leaves it at that value. -/
theorem alternates_follow [DecidableEq α] {b last want : α} {log : List α}
    (alternates : Alternates flip b log) (ends : log.getLastD b = last)
    (either : want = last ∨ want = flip last) :
    Alternates flip b (log ++ follow last want) ∧ (log ++ follow last want).getLastD b = want := by
  unfold follow
  split
  · rename_i same
    rw [List.append_nil]
    exact ⟨alternates, ends.trans same.symm⟩
  · rename_i differs
    rw [alternates_append, getLastD_append, ends]
    exact ⟨⟨alternates, either.resolve_left differs, trivial⟩, rfl⟩

end Toggle
