import Mathlib.Data.Nat.Notation

/-!
# A flag and a bell

A caller raises a flag and then rings a bell that counts. The one who answers sets the count to
zero first and looks at the flag afterwards. Then no raised flag is left with nobody due to look.
-/

namespace Doorbell

/-- `ringing` callers have raised the flag and not rung yet. `due` is the time between an answer
and the look at the flag. -/
structure Bell where
  counter : ℕ
  raised : Bool
  ringing : ℕ
  due : Bool
  deriving DecidableEq, Repr

inductive Move : Bell → Bell → Prop
  /-- Other callers may ring the same bell. -/
  | keep {b : Bell} {counter : ℕ} (rung : 0 < b.counter → 0 < counter) :
      Move b { b with counter := counter }
  | raise {b : Bell} : Move b { b with raised := true, ringing := b.ringing + 1 }
  | ring {b : Bell} {counter : ℕ} (rung : 0 < counter) :
      Move b { b with counter := counter, ringing := b.ringing - 1 }
  | answer {b : Bell} : Move b { b with counter := 0, due := true }
  | look {b : Bell} : Move b { b with raised := false, due := false }

/-- A raised flag will be looked at. -/
def Heard (b : Bell) : Prop := b.raised = true → 0 < b.counter ∨ 0 < b.ringing ∨ b.due = true

theorem Move.refl (b : Bell) : Move b b := .keep fun rung => rung

theorem Heard.move {b b' : Bell} (heard : Heard b) (move : Move b b') : Heard b' := by
  cases move with
  | keep rung =>
    intro raised
    rcases heard raised with counter | ringing | due
    · exact Or.inl (rung counter)
    · exact Or.inr (Or.inl ringing)
    · exact Or.inr (Or.inr due)
  | raise => exact fun _ => Or.inr (Or.inl (Nat.succ_pos _))
  | ring rung => exact fun _ => Or.inl rung
  | answer => exact fun _ => Or.inr (Or.inr rfl)
  | look => exact fun raised => Bool.noConfusion raised

/-- Nobody rings, nothing is counted and no look is due: the flag is down. -/
theorem Heard.quiet {b : Bell} (heard : Heard b) (counter : b.counter = 0) (ringing : b.ringing = 0)
    (due : b.due = false) : b.raised = false := by
  cases raised : b.raised with
  | false => rfl
  | true =>
    rcases heard raised with rung | rung | looked
    · omega
    · omega
    · rw [due] at looked
      cases looked

end Doorbell
