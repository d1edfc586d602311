import Mathlib.Logic.Basic

/-!
# Two calls side by side

Two computations that keep their state when they throw, run from states in one relation. They end
alike if both return the same value or both throw the same, in states in the relation for that ending.
Computations that cannot throw step alike.
-/

namespace Alike

universe u
variable {ε σ α β : Type u}

inductive Endings (E Q : σ → σ → Prop) : EStateM.Result ε σ α → EStateM.Result ε σ α → Prop
  | returned {a : α} {s s' : σ} (related : Q s s') : Endings E Q (.ok a s) (.ok a s')
  | threw {e : ε} {s s' : σ} (related : E s s') : Endings E Q (.error e s) (.error e s')

/-- From states related by `R` the calls end alike: by `Q` if they return and by `E` if they throw. -/
def Calls (E R Q : σ → σ → Prop) (x y : EStateM ε σ α) : Prop := ∀ s s', R s s' → Endings E Q (x s) (y s')

variable {E R Q T : σ → σ → Prop} {x y : EStateM ε σ α} {f g : α → EStateM ε σ β}

theorem returns (a : α) : Calls E R R (pure a : EStateM ε σ α) (pure a) := fun _ _ related => .returned related

theorem throws (e : ε) : Calls R R Q (throw e : EStateM ε σ α) (throw e) := fun _ _ related => .threw related

/-- Nothing is asked of the states in which the calls throw. -/
theorem forget (alike : Calls E R Q x y) : Calls (fun _ _ => True) R Q x y := by
  intro s s' related
  have ends := alike s s' related
  generalize x s = r, y s' = r' at ends
  cases ends with
  | returned middle => exact .returned middle
  | threw => exact .threw trivial

theorem sequence (first : Calls E R Q x y) (rest : ∀ a, Calls E Q T (f a) (g a)) :
    Calls E R T (x >>= f) (y >>= g) := by
  intro s s' related
  show Endings E T (EStateM.bind x f s) (EStateM.bind y g s')
  have ends := first s s' related
  unfold EStateM.bind
  generalize x s = r, y s' = r' at ends
  cases ends with
  | returned middle => exact rest _ _ _ middle
  | threw left => exact .threw left

/-- Each call goes on with its own state. -/
theorem reads {f g : σ → EStateM ε σ β} (rest : ∀ s s', R s s' → Calls E R Q (f s) (g s')) :
    Calls E R Q (get >>= f) (get >>= g) := fun s s' related => rest s s' related s s' related

theorem modifies {f g : σ → σ} (kept : ∀ s s', R s s' → Q (f s) (g s')) :
    Calls E R Q (modify f : EStateM ε σ PUnit) (modify g) := fun s s' related => .returned (kept s s' related)

theorem choice {c : Prop} [Decidable c] {x' y' : EStateM ε σ α} (yes : Calls E R Q x y)
    (no : Calls E R Q x' y') : Calls E R Q (if c then x else x') (if c then y else y') := by
  split
  · exact yes
  · exact no

/-! ### Computations that do not throw -/

/-- From states related by `R` both steps give the same value, and states related by `Q`. -/
def Steps (R Q : σ → σ → Prop) (x y : StateM σ α) : Prop :=
  ∀ s s', R s s' → (y s').1 = (x s).1 ∧ Q (x s).2 (y s').2

section Steps

variable {x y : StateM σ α}

theorem steps_returns (a : α) : Steps R R (pure a : StateM σ α) (pure a) := fun _ _ related => ⟨rfl, related⟩

theorem steps_sequence {f g : α → StateM σ β} (first : Steps R Q x y) (rest : ∀ a, Steps Q T (f a) (g a)) :
    Steps R T (x >>= f) (y >>= g) := by
  intro s s' related
  obtain ⟨same, middle⟩ := first s s' related
  show (g (y s').1 (y s').2).1 = (f (x s).1 (x s).2).1 ∧ T (f (x s).1 (x s).2).2 (g (y s').1 (y s').2).2
  rw [same]
  exact rest _ _ _ middle

theorem steps_reads {f g : σ → StateM σ β} (rest : ∀ s s', R s s' → Steps R Q (f s) (g s')) :
    Steps R Q (get >>= f) (get >>= g) := fun s s' related => rest s s' related s s' related

theorem steps_modifies {f g : σ → σ} (kept : ∀ s s', R s s' → Q (f s) (g s')) :
    Steps R Q (modify f : StateM σ PUnit) (modify g) := fun s s' related => ⟨rfl, kept s s' related⟩

theorem steps_choice {c : Prop} [Decidable c] {x' y' : StateM σ α} (yes : Steps R Q x y)
    (no : Steps R Q x' y') : Steps R Q (if c then x else x') (if c then y else y') := by
  split
  · exact yes
  · exact no

end Steps

end Alike
