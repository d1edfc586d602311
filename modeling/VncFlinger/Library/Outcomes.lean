import Mathlib.Logic.Basic

/-!
# Computations that keep their state when they throw

An `EStateM` computation that throws leaves the state it had reached, as a C++ function left by
an exception does. `after` is the state left either way.
-/

namespace Outcomes

universe u
variable {ε σ α β : Type u}

def after (x : EStateM ε σ α) (s : σ) : σ :=
  match x s with
  | .ok _ s' => s'
  | .error _ s' => s'

def Returns (x : EStateM ε σ α) (s : σ) : Prop := ∃ a s', x s = .ok a s'

theorem after_ok {x : EStateM ε σ α} {s s' : σ} {a : α} (ok : x s = .ok a s') : after x s = s' := by
  rw [after, ok]

theorem after_error {x : EStateM ε σ α} {s s' : σ} {e : ε} (error : x s = .error e s') :
    after x s = s' := by
  rw [after, error]

theorem after_congr {x y : EStateM ε σ α} {s t : σ} (same : x s = y t) : after x s = after y t := by
  rw [after, same, after]

theorem bind_ok {x : EStateM ε σ α} {f : α → EStateM ε σ β} {s s' : σ} {a : α} (ok : x s = .ok a s') :
    (x >>= f) s = f a s' := by
  show EStateM.bind x f s = f a s'
  rw [EStateM.bind, ok]

theorem bind_error {x : EStateM ε σ α} {f : α → EStateM ε σ β} {s s' : σ} {e : ε}
    (error : x s = .error e s') : (x >>= f) s = .error e s' := by
  show EStateM.bind x f s = .error e s'
  rw [EStateM.bind, error]

theorem get_apply (s : σ) : (get : EStateM ε σ σ) s = .ok s s := rfl

theorem modify_apply (f : σ → σ) (s : σ) : (modify f : EStateM ε σ PUnit) s = .ok ⟨⟩ (f s) := rfl

theorem after_bind_ok {x : EStateM ε σ α} {f : α → EStateM ε σ β} {s s' : σ} {a : α}
    (ok : x s = .ok a s') : after (x >>= f) s = after (f a) s' := by
  rw [after, bind_ok ok, after]

theorem after_bind_error {x : EStateM ε σ α} {f : α → EStateM ε σ β} {s s' : σ} {e : ε}
    (error : x s = .error e s') : after (x >>= f) s = s' :=
  after_error (bind_error error)

theorem bind_returns {x : EStateM ε σ α} {f : α → EStateM ε σ β} {s s' : σ} {b : β}
    (ok : (x >>= f) s = .ok b s') : ∃ a middle, x s = .ok a middle ∧ f a middle = .ok b s' := by
  cases result : x s with
  | ok a middle =>
    rw [bind_ok result] at ok
    exact ⟨a, middle, rfl, ok⟩
  | error e middle =>
    rw [bind_error result] at ok
    exact absurd ok (by simp)

/-- The value of a computation that returns. -/
def value (x : EStateM ε σ α) (s : σ) : Option α :=
  match x s with
  | .ok a _ => some a
  | .error _ _ => none

theorem ok_of_value {x : EStateM ε σ α} {s : σ} {a : α} (returned : value x s = some a) :
    x s = .ok a (after x s) := by
  unfold value at returned
  cases result : x s with
  | ok a' s' =>
    rw [result] at returned
    cases returned
    rw [after_ok result]
  | error e s' =>
    rw [result] at returned
    cases returned

/-! ### Invariants -/

/-- The invariant survives the computation, however it ends. -/
def Keeps (I : σ → Prop) (x : EStateM ε σ α) : Prop := ∀ s, I s → I (after x s)

variable {I : σ → Prop}

theorem keeps_pure (a : α) : Keeps I (pure a : EStateM ε σ α) := fun _ holds => holds

theorem keeps_get : Keeps I (get : EStateM ε σ σ) := fun _ holds => holds

theorem keeps_bind {x : EStateM ε σ α} {f : α → EStateM ε σ β} (first : Keeps I x)
    (rest : ∀ a, Keeps I (f a)) : Keeps I (x >>= f) := by
  intro s holds
  have middle := first s holds
  cases result : x s with
  | ok a s' =>
    rw [after_ok result] at middle
    rw [after_bind_ok result]
    exact rest a s' middle
  | error e s' =>
    rw [after_error result] at middle
    rw [after_bind_error result]
    exact middle

end Outcomes
