import Mathlib.Logic.Basic
import Mathlib.Data.List.Basic

/-!
# Conditions along a run

A run folds a total step function over a list of inputs. `Along C` says that a condition on
the state before a step and its input holds at every step of the run. `along_iff` carries an
invariant through a run and replaces a property of its steps by the exact condition for it.
-/

namespace Runs

variable {σ α : Type*} {step : σ → α → σ}

def Along (step : σ → α → σ) (C : σ → α → Prop) : σ → List α → Prop
  | _, [] => True
  | s, a :: rest => C s a ∧ Along step C (step s a) rest

@[simp] theorem along_nil {C : σ → α → Prop} {s : σ} : Along step C s [] := trivial

@[simp] theorem along_cons {C : σ → α → Prop} {s : σ} {a : α} {rest : List α} :
    Along step C s (a :: rest) ↔ C s a ∧ Along step C (step s a) rest := Iff.rfl

def decidableAlong {C : σ → α → Prop} (dec : ∀ s a, Decidable (C s a)) :
    ∀ (s : σ) (as : List α), Decidable (Along step C s as)
  | _, [] => isTrue trivial
  | s, a :: rest => @instDecidableAnd _ _ (dec s a) (decidableAlong dec (step s a) rest)

instance {C : σ → α → Prop} [dec : ∀ s a, Decidable (C s a)] (s : σ) (as : List α) :
    Decidable (Along step C s as) := decidableAlong dec s as

theorem along_append {C : σ → α → Prop} {s : σ} {as bs : List α} :
    Along step C s (as ++ bs) ↔ Along step C s as ∧ Along step C (as.foldl step s) bs := by
  induction as generalizing s with
  | nil => simp
  | cons a as ih => simp only [List.cons_append, along_cons, List.foldl_cons, ih, and_assoc]

theorem along_of_forall_input {C : σ → α → Prop} {s : σ} {as : List α} (holds : ∀ a ∈ as, ∀ s, C s a) :
    Along step C s as := by
  induction as generalizing s with
  | nil => trivial
  | cons a as ih =>
    exact ⟨holds a List.mem_cons_self s, ih fun b member => holds b (List.mem_cons_of_mem a member)⟩

theorem foldl_invariant {I : σ → Prop} {s : σ} {as : List α} (start : I s)
    (keep : ∀ s, ∀ a ∈ as, I s → I (step s a)) : I (as.foldl step s) := by
  induction as generalizing s with
  | nil => exact start
  | cons a as ih =>
    have kept := keep s a List.mem_cons_self start
    exact ih kept fun s b member => keep s b (List.mem_cons_of_mem a member)

theorem foldl_invariant_along {I : σ → Prop} {C : σ → α → Prop} {s : σ} {as : List α} (start : I s)
    (along : Along step C s as) (keep : ∀ s a, C s a → I s → I (step s a)) : I (as.foldl step s) := by
  induction as generalizing s with
  | nil => exact start
  | cons a as ih => exact ih (keep s a along.1 start) along.2

/-- A property that every step has from the invariant holds along the run. -/
theorem along_of_invariant {I : σ → Prop} {N : σ → α → Prop} {s : σ} {as : List α} (start : I s)
    (holds : ∀ s, ∀ a ∈ as, I s → N s a ∧ I (step s a)) : Along step N s as := by
  induction as generalizing s with
  | nil => trivial
  | cons a as ih =>
    obtain ⟨now, kept⟩ := holds s a List.mem_cons_self start
    exact ⟨now, ih kept fun s b member => holds s b (List.mem_cons_of_mem a member)⟩

/-- The exact condition for a property of the steps: the invariant need only survive the steps
that have the property. -/
theorem along_iff {I : σ → Prop} {N C : σ → α → Prop} {s : σ} {as : List α} (start : I s)
    (exact_step : ∀ s, ∀ a ∈ as, I s → (N s a ↔ C s a))
    (keep : ∀ s, ∀ a ∈ as, I s → N s a → I (step s a)) : Along step N s as ↔ Along step C s as := by
  induction as generalizing s with
  | nil => exact Iff.rfl
  | cons a as ih =>
    have here : a ∈ a :: as := List.mem_cons_self
    have rest := fun s (inv : I s) => ih inv
      (fun s b member => exact_step s b (List.mem_cons_of_mem _ member))
      (fun s b member => keep s b (List.mem_cons_of_mem _ member))
    constructor
    · rintro ⟨now, later⟩
      exact ⟨(exact_step s a here start).mp now, (rest _ (keep s a here start now)).mp later⟩
    · rintro ⟨now, later⟩
      have now' := (exact_step s a here start).mpr now
      exact ⟨now', (rest _ (keep s a here start now')).mpr later⟩

/-- What a step outside `C` loses and no later step restores: the state at the end tells whether `C`
held along the run. `S` holds along the run and keeps `I`. -/
theorem along_iff_end {G I : σ → Prop} {C S : σ → α → Prop} {s : σ} {as : List α} (start : I s) (good : G s)
    (along : Along step S s as) (keep : ∀ s a, I s → S s a → I (step s a))
    (exact_step : ∀ s a, I s → S s a → G s → (G (step s a) ↔ C s a))
    (lost : ∀ s a, I s → S s a → ¬ G s → ¬ G (step s a)) :
    Along step C s as ↔ G (as.foldl step s) := by
  induction as generalizing s with
  | nil => exact iff_of_true trivial good
  | cons a as ih =>
    obtain ⟨now, later⟩ := along
    have kept := keep s a start now
    rw [along_cons, List.foldl_cons]
    by_cases here : C s a
    · have still := (exact_step s a start now good).mpr here
      rw [ih kept still later]
      exact and_iff_right here
    · have gone : ¬ G (step s a) := fun still => here ((exact_step s a start now good).mp still)
      have ended : ¬ G (as.foldl step (step s a)) :=
        (foldl_invariant_along (I := fun s => I s ∧ ¬ G s) ⟨kept, gone⟩ later fun s a held before =>
          ⟨keep s a before.1 held, lost s a before.1 held before.2⟩).2
      exact iff_of_false (fun both => here both.1) ended

/-- What each step keeps exactly under `C`, and never restores, is kept exactly by the runs along `C`. -/
theorem foldl_iff_along {G : σ → Prop} {C : σ → α → Prop} {s : σ} {as : List α}
    (exact_step : ∀ s a, G (step s a) ↔ C s a ∧ G s) : G (as.foldl step s) ↔ Along step C s as ∧ G s := by
  induction as generalizing s with
  | nil => exact (and_iff_right trivial).symm
  | cons a as ih => rw [List.foldl_cons, ih, exact_step, along_cons, and_assoc, and_left_comm]

end Runs
