import Mathlib.Data.List.Basic
import Mathlib.Data.Nat.Notation

/-!
# Fixed buffers

Memory from the start of a buffer on, with nothing that stops a write at the buffer's end: whether
one stays inside is a property of the writes.
-/

namespace Buffers

/-- A string in C: the bytes before the terminating zero. -/
structure CString where
  chars : List UInt8
  noNul : 0 ∉ chars
  deriving DecidableEq

def CString.strlen (s : CString) : ℕ := (s.chars ++ [0]).idxOf 0

theorem strlen_eq (s : CString) : s.strlen = s.chars.length := by
  rw [CString.strlen, List.idxOf_append, if_neg s.noNul]
  simp

structure Write where
  offset : ℕ
  bytes : List UInt8
  deriving DecidableEq, Repr

abbrev Memory := ℕ → UInt8

def Write.apply (w : Write) (m : Memory) : Memory := fun i =>
  if w.offset ≤ i then w.bytes[i - w.offset]?.getD (m i) else m i

def store (writes : List Write) (m : Memory) : Memory := writes.foldl (fun m w => w.apply m) m

def read (m : Memory) (n : ℕ) : List UInt8 := (List.range n).map m

/-- No write goes past the end of a buffer of this size. -/
def Within (size : ℕ) (writes : List Write) : Prop := ∀ w ∈ writes, w.offset + w.bytes.length ≤ size

def strcpy (s : CString) : Write := ⟨0, s.chars ++ [0]⟩

def memset (n : ℕ) : Write := ⟨0, List.replicate n 0⟩

variable {size : ℕ} {writes : List Write} {m : Memory} {w : Write}

theorem within_cons : Within size (w :: writes) ↔ w.offset + w.bytes.length ≤ size ∧ Within size writes := by
  simp [Within]

theorem store_cons : store (w :: writes) m = store writes (w.apply m) := rfl

theorem strcpy_within_iff (s : CString) : (strcpy s).offset + (strcpy s).bytes.length ≤ size ↔ s.strlen < size := by
  simp only [strlen_eq, strcpy, List.length_append, List.length_singleton, Nat.zero_add]
  exact Nat.succ_le_iff

theorem store_beyond (within : Within size writes) {i : ℕ} (beyond : size ≤ i) : store writes m i = m i := by
  induction writes generalizing m with
  | nil => rfl
  | cons w rest ih =>
    obtain ⟨first, later⟩ := within_cons.mp within
    rw [store_cons, ih later, Write.apply]
    split
    · rw [List.getElem?_eq_none (by omega), Option.getD_none]
    · rfl

theorem strcpy_apply (s : CString) {i : ℕ} (inside : i < s.chars.length) :
    (strcpy s).apply m i = s.chars[i] := by
  simp [Write.apply, strcpy, List.getElem?_append_left inside, List.getElem?_eq_getElem inside]

theorem read_poke (s : CString) (byte : UInt8) :
    read (Write.apply ⟨0, [byte]⟩ ((strcpy s).apply m)) s.strlen = s.chars.set 0 byte := by
  rw [strlen_eq]
  apply List.ext_getElem
  · simp [read]
  · intro i inside _
    simp only [read, List.length_map, List.length_range] at inside
    simp only [read, List.getElem_map, List.getElem_range, List.getElem_set]
    cases i with
    | zero => rfl
    | succ i =>
      have other (m : Memory) : Write.apply ⟨0, [byte]⟩ m (i + 1) = m (i + 1) := by simp [Write.apply]
      rw [if_neg (by omega), other]
      exact strcpy_apply s inside

end Buffers
