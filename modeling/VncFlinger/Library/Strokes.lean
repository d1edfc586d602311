import Mathlib.Data.Finset.SDiff
import Mathlib.Data.Finset.Basic
import Mathlib.Data.List.Basic

/-!
# Replaying presses and releases

A stroke presses (`true`) or releases (`false`) one key. `replay` computes the keys held after
a list of strokes, and only the last stroke of each key matters for it. `replay_balanced` is the
rule for a set of actions that each press some keys and later release them: when the release
of an action lifts whatever its press left down, balanced runs hold nothing at the end.
-/

namespace Strokes

variable {κ : Type*} [DecidableEq κ]

/-- The held keys after one stroke. -/
def apply (held : Finset κ) (stroke : κ × Bool) : Finset κ :=
  if stroke.2 then insert stroke.1 held else held.erase stroke.1

def replay (held : Finset κ) (strokes : List (κ × Bool)) : Finset κ := strokes.foldl apply held

/-- The direction of the last stroke of `k`, if it has one. -/
def lastStroke (k : κ) : List (κ × Bool) → Option Bool
  | [] => none
  | stroke :: rest => (lastStroke k rest).or (if stroke.1 = k then some stroke.2 else none)

@[simp] theorem replay_nil (held : Finset κ) : replay held [] = held := rfl

@[simp] theorem replay_cons (held : Finset κ) (stroke : κ × Bool) (rest : List (κ × Bool)) :
    replay held (stroke :: rest) = replay (apply held stroke) rest := rfl

theorem replay_append (held : Finset κ) (first second : List (κ × Bool)) :
    replay held (first ++ second) = replay (replay held first) second := List.foldl_append

@[simp] theorem lastStroke_nil (k : κ) : lastStroke k [] = none := rfl

@[simp] theorem lastStroke_cons (k : κ) (stroke : κ × Bool) (rest : List (κ × Bool)) :
    lastStroke k (stroke :: rest) =
      (lastStroke k rest).or (if stroke.1 = k then some stroke.2 else none) := rfl

theorem lastStroke_append (k : κ) (first second : List (κ × Bool)) :
    lastStroke k (first ++ second) = (lastStroke k second).or (lastStroke k first) := by
  induction first with
  | nil => simp
  | cons stroke rest ih => rw [List.cons_append, lastStroke_cons, ih, Option.or_assoc, lastStroke_cons]

theorem lastStroke_eq_none {k : κ} {strokes : List (κ × Bool)} :
    lastStroke k strokes = none ↔ ∀ stroke ∈ strokes, stroke.1 ≠ k := by
  induction strokes with
  | nil => simp
  | cons stroke rest ih => simp [Option.or_eq_none_iff, ih, and_comm]

theorem lastStroke_mem {k : κ} {strokes : List (κ × Bool)} {down : Bool}
    (last : lastStroke k strokes = some down) : (k, down) ∈ strokes := by
  induction strokes with
  | nil => simp at last
  | cons stroke rest ih =>
    rw [lastStroke_cons, Option.or_eq_some_iff] at last
    rcases last with later | ⟨_, here⟩
    · exact List.mem_cons_of_mem _ (ih later)
    · split at here
      · rename_i same
        have direction : stroke.2 = down := by simpa using here
        have whole : stroke = (k, down) := Prod.ext same direction
        rw [whole]
        exact List.mem_cons_self
      · simp at here

theorem mem_replay {k : κ} {held : Finset κ} {strokes : List (κ × Bool)} :
    k ∈ replay held strokes ↔
      lastStroke k strokes = some true ∨ lastStroke k strokes = none ∧ k ∈ held := by
  induction strokes generalizing held with
  | nil => simp
  | cons stroke rest ih =>
    obtain ⟨code, down⟩ := stroke
    rw [replay_cons, ih, lastStroke_cons]
    cases later : lastStroke k rest with
    | some last => simp
    | none =>
      by_cases same : code = k
      · subst same
        cases down <;> simp [apply]
      · cases down <;> simp [apply, same, Ne.symm same]

/-! ### Strokes that end released -/

theorem mem_replay_of_lifted {k : κ} {held : Finset κ} {strokes : List (κ × Bool)}
    (lifted : ∀ k, lastStroke k strokes ≠ some true) :
    k ∈ replay held strokes ↔ k ∈ held ∧ ∀ stroke ∈ strokes, stroke.1 ≠ k := by
  rw [mem_replay, lastStroke_eq_none, and_comm (a := ∀ stroke ∈ strokes, stroke.1 ≠ k)]
  simp [lifted k]

theorem replay_eq_self_iff {held : Finset κ} {strokes : List (κ × Bool)}
    (lifted : ∀ k, lastStroke k strokes ≠ some true) :
    replay held strokes = held ↔ ∀ stroke ∈ strokes, stroke.1 ∉ held := by
  constructor
  · intro same stroke member present
    rw [← same, mem_replay_of_lifted lifted] at present
    exact present.2 stroke member rfl
  · intro absent
    ext k
    rw [mem_replay_of_lifted lifted]
    constructor
    · exact fun h => h.1
    · intro present
      refine ⟨present, fun stroke member same => absent stroke member ?_⟩
      rw [same]
      exact present

/-! ### Balanced runs -/

section Balanced

variable {ι : Type*}

/-- Every press in the run is followed by a release of the same action. -/
def Balanced : List (Bool × ι) → Prop
  | [] => True
  | (press, i) :: rest => (press = true → (false, i) ∈ rest) ∧ Balanced rest

instance [DecidableEq ι] : (run : List (Bool × ι)) → Decidable (Balanced run)
  | [] => inferInstanceAs (Decidable True)
  | (press, i) :: rest =>
    have := instDecidableBalancedOfDecidableEq rest
    inferInstanceAs (Decidable ((press = true → (false, i) ∈ rest) ∧ Balanced rest))

theorem balanced_suffix {before after : List (Bool × ι)} (balanced : Balanced (before ++ after)) :
    Balanced after := by
  induction before with
  | nil => exact balanced
  | cons event rest ih => exact ih balanced.2

variable (strokes : Bool → ι → List (κ × Bool))

/-- A key that ends down was left down by the press of an action after which it is not written. -/
theorem down_has_press (lifts : ∀ i, ∀ stroke ∈ strokes false i, stroke.2 = false) {k : κ}
    {run : List (Bool × ι)}
    (down : lastStroke k (run.flatMap fun event => strokes event.1 event.2) = some true) :
    ∃ before i after, run = before ++ (true, i) :: after ∧
      lastStroke k (strokes true i) = some true ∧
      lastStroke k (after.flatMap fun event => strokes event.1 event.2) = none := by
  induction run with
  | nil => simp at down
  | cons event rest ih =>
    rw [List.flatMap_cons, lastStroke_append, Option.or_eq_some_iff] at down
    rcases down with later | ⟨untouched, here⟩
    · obtain ⟨before, i, after, split, pressed, clean⟩ := ih later
      exact ⟨event :: before, i, after, by rw [split, List.cons_append], pressed, clean⟩
    · obtain ⟨press, i⟩ := event
      cases press with
      | false =>
        have up := lifts i _ (lastStroke_mem here)
        simp at up
      | true => exact ⟨[], i, rest, rfl, here, untouched⟩

/-- If a release only lifts, and lifts whatever the press of the same action left down, then a
balanced run ends with nothing held. -/
theorem replay_balanced (lifts : ∀ i, ∀ stroke ∈ strokes false i, stroke.2 = false)
    (covers : ∀ i k, lastStroke k (strokes true i) = some true → (k, false) ∈ strokes false i)
    {run : List (Bool × ι)} (balanced : Balanced run) :
    replay ∅ (run.flatMap fun event => strokes event.1 event.2) = ∅ := by
  ext k
  rw [mem_replay]
  constructor
  · rintro (down | ⟨_, impossible⟩)
    · obtain ⟨before, i, after, split, pressed, clean⟩ := down_has_press strokes lifts down
      rw [split] at balanced
      have released := (balanced_suffix balanced).1 rfl
      have lifted : (k, false) ∈ after.flatMap fun event => strokes event.1 event.2 :=
        List.mem_flatMap.mpr ⟨(false, i), released, covers i k pressed⟩
      exact absurd rfl (lastStroke_eq_none.mp clean _ lifted)
    · simp at impossible
  · intro impossible
    simp at impossible

/-- The same two conditions make a tap, a press and its release, end with every key it wrote up. -/
theorem tap_lifted (lifts : ∀ i, ∀ stroke ∈ strokes false i, stroke.2 = false)
    (covers : ∀ i k, lastStroke k (strokes true i) = some true → (k, false) ∈ strokes false i)
    (i : ι) (k : κ) : lastStroke k (strokes true i ++ strokes false i) ≠ some true := by
  intro down
  rw [lastStroke_append, Option.or_eq_some_iff] at down
  rcases down with released | ⟨untouched, pressed⟩
  · have up := lifts i _ (lastStroke_mem released)
    simp at up
  · exact absurd rfl (lastStroke_eq_none.mp untouched _ (covers i k pressed))

end Balanced

end Strokes
