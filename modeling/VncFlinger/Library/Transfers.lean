import Mathlib.Data.List.Basic
import Mathlib.Data.Nat.Notation

/-!
# Blocks handed over piece by piece

A block goes out in pieces, each from a position on and of some size. When each piece starts where
the one before it stopped, the pieces put together are a stretch of the block.
-/

namespace Transfers

structure Piece where
  start : ℕ
  amount : ℕ
  deriving DecidableEq, Repr

def positions (l : List Piece) : List ℕ := l.flatMap fun piece => List.range' piece.start piece.amount

variable {α : Type*}

/-- What the receiver has once the pieces are put together. -/
def received (block : List α) (l : List Piece) : List α :=
  l.flatMap fun piece => (block.drop piece.start).take piece.amount

/-- The pieces go from one position to another without a gap and without an overlap. -/
inductive Contiguous : ℕ → List Piece → ℕ → Prop where
  | nil (here : ℕ) : Contiguous here [] here
  | cons {here stop amount : ℕ} {rest : List Piece} (later : Contiguous (here + amount) rest stop) :
    Contiguous here (⟨here, amount⟩ :: rest) stop

variable {here stop : ℕ} {l : List Piece}

theorem Contiguous.le (pieces : Contiguous here l stop) : here ≤ stop := by
  induction pieces with
  | nil => exact Nat.le_refl _
  | cons later ih => omega

theorem Contiguous.positions_eq (pieces : Contiguous here l stop) :
    positions l = List.range' here (stop - here) := by
  induction pieces with
  | nil => simp [positions]
  | @cons here stop amount rest later ih =>
    have beyond := later.le
    have sizes : stop - here = amount + (stop - (here + amount)) := by omega
    rw [positions, List.flatMap_cons, ← positions, ih, sizes, ← List.range'_append_1]

theorem Contiguous.received_eq (pieces : Contiguous here l stop) (block : List α) :
    received block l = (block.drop here).take (stop - here) := by
  induction pieces with
  | nil => simp [received]
  | @cons here stop amount rest later ih =>
    have beyond := later.le
    have sizes : stop - here = amount + (stop - (here + amount)) := by omega
    rw [received, List.flatMap_cons, ← received, ih, sizes, List.take_add, List.drop_drop]

theorem Contiguous.received_prefix (pieces : Contiguous 0 l stop) (block : List α) :
    received block l = block.take stop := by
  simpa using pieces.received_eq block

end Transfers
