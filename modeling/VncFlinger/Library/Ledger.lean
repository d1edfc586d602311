import Mathlib.Data.List.Basic
import Mathlib.Data.Nat.Notation

/-!
# Ledgers of what was gained and given back

A run logs each gain of a resource and each release of it. Numbers are given out again after their
release, so what counts is how often each was gained and released, in the log and in its prefixes.
-/

namespace Ledger

inductive Entry (α : Type*) where
  | gain (a : α)
  | release (a : α)
  deriving DecidableEq, Repr

variable {α : Type*} [DecidableEq α] {a : α} {l l' : List (Entry α)}

def gains (a : α) (l : List (Entry α)) : ℕ := l.count (.gain a)

def releases (a : α) (l : List (Entry α)) : ℕ := l.count (.release a)

/-- At no time was anything released more often than gained. -/
def NeverTwice (l : List (Entry α)) : Prop := ∀ p, p <+: l → ∀ a, releases a p ≤ gains a p

/-- Everything gained was released, once for each gain. -/
def Settled (l : List (Entry α)) : Prop := ∀ a, releases a l = gains a l

theorem gains_append : gains a (l ++ l') = gains a l + gains a l' := List.count_append

theorem releases_append : releases a (l ++ l') = releases a l + releases a l' := List.count_append

theorem NeverTwice.le (once : NeverTwice l) (a : α) : releases a l ≤ gains a l :=
  once l List.prefix_rfl a

theorem neverTwice_nil : NeverTwice ([] : List (Entry α)) := by
  intro p short a
  rw [List.prefix_nil.mp short]
  exact Nat.le_refl _

theorem neverTwice_gain (a : α) : NeverTwice [Entry.gain a] := by
  intro p short b
  have most : releases b p ≤ releases b [Entry.gain a] := short.sublist.count_le _
  have none : releases b [Entry.gain a] = 0 := List.count_cons_of_ne (by simp)
  omega

theorem neverTwice_gain_release (a : α) : NeverTwice [Entry.gain a, Entry.release a] := by
  intro p short b
  rcases List.prefix_cons_iff.mp short with rfl | ⟨t, rfl, rest⟩
  · exact Nat.le_refl _
  · have most : releases b t ≤ releases b [Entry.release a] := rest.sublist.count_le _
    have same : releases b (Entry.gain a :: t) = releases b t := List.count_cons_of_ne (by simp)
    by_cases here : a = b
    · subst here
      have gained : gains a (Entry.gain a :: t) = gains a t + 1 := List.count_cons_self
      have one : releases a [Entry.release a] = 1 := List.count_cons_self
      omega
    · have none : releases b [Entry.release a] = 0 := List.count_cons_of_ne (by simpa using here)
      omega

theorem NeverTwice.append (once : NeverTwice l) (later : NeverTwice l') : NeverTwice (l ++ l') := by
  intro p short a
  rcases List.prefix_or_prefix_of_prefix short (List.prefix_append l l') with within | ⟨q, rfl⟩
  · exact once p within a
  · have first := once.le a
    have second := later q ((List.prefix_append_right_inj l).mp short) a
    rw [releases_append, gains_append]
    omega

theorem settled_nil : Settled ([] : List (Entry α)) := fun _ => rfl

theorem settled_gain_release (a : α) : Settled [Entry.gain a, Entry.release a] := by
  intro b
  by_cases here : a = b
  · subst here
    simp [gains, releases]
  · simp [gains, releases, here]

theorem not_settled_gain (a : α) : ¬ Settled [Entry.gain a] := fun settled => by
  have same := settled a
  simp [gains, releases] at same

/-- What one part of a run leaves open no later part closes. -/
theorem settled_append (once : NeverTwice l) (later : NeverTwice l') :
    Settled (l ++ l') ↔ Settled l ∧ Settled l' := by
  constructor
  · intro settled
    have counts : ∀ a, releases a l = gains a l ∧ releases a l' = gains a l' := by
      intro a
      have total := settled a
      rw [releases_append, gains_append] at total
      have first := once.le a
      have second := later.le a
      omega
    exact ⟨fun a => (counts a).1, fun a => (counts a).2⟩
  · rintro ⟨first, second⟩ a
    rw [releases_append, gains_append, first a, second a]

end Ledger
