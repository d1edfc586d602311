import Mathlib.Data.List.Basic

/-!
# Codes that are read from the front

A decoder that takes one element off the front of a list, and takes exactly what its encoder writes.
Then what was written back to back is read back, and nothing else is.
-/

namespace Codes

variable {α β γ : Type*}

structure Code (α β : Type*) where
  encode : α → List β
  decode : List β → Option (α × List β)
  nonempty (a : α) : encode a ≠ []
  decodes (a : α) (rest : List β) : decode (encode a ++ rest) = some (a, rest)
  encodes {l rest : List β} {a : α} (decoded : decode l = some (a, rest)) : l = encode a ++ rest

namespace Code

variable (c : Code α β)

def write (as : List α) : List β := as.flatMap c.encode

@[simp] theorem write_nil : c.write [] = [] := rfl

@[simp] theorem write_cons (a : α) (as : List α) : c.write (a :: as) = c.encode a ++ c.write as := rfl

theorem shorter {l rest : List β} {a : α} (decoded : c.decode l = some (a, rest)) :
    rest.length < l.length := by
  have written := List.length_pos_of_ne_nil (c.nonempty a)
  rw [c.encodes decoded, List.length_append]
  omega

/-- Every element in the list, in order; `none` where one cannot be decoded. -/
def read (l : List β) : Option (List α) :=
  match l with
  | [] => some []
  | b :: bs =>
    match decoded : c.decode (b :: bs) with
    | none => none
    | some (a, rest) =>
      have := c.shorter decoded
      (read rest).map (a :: ·)
termination_by l.length
decreasing_by exact this

theorem read_of_decode {l rest : List β} {a : α} (decoded : c.decode l = some (a, rest)) :
    c.read l = (c.read rest).map (a :: ·) := by
  have written := c.encodes decoded
  cases l with
  | nil => exact absurd (List.append_eq_nil_iff.mp written.symm).1 (c.nonempty a)
  | cons b bs =>
    rw [read]
    split
    · next refused => cases decoded.symm.trans refused
    · next a' rest' decoded' =>
      cases decoded.symm.trans decoded'
      rfl

theorem read_of_refused {l : List β} (filled : l ≠ []) (refused : c.decode l = none) : c.read l = none := by
  cases l with
  | nil => exact absurd rfl filled
  | cons b bs =>
    rw [read]
    split
    · rfl
    · next a rest decoded => cases refused.symm.trans decoded

theorem read_write (as : List α) : c.read (c.write as) = some as := by
  induction as with
  | nil => rw [write_nil, read]
  | cons a as ih =>
    rw [write_cons, c.read_of_decode (c.decodes a (c.write as)), ih]
    rfl

theorem write_read {l : List β} {as : List α} (read : c.read l = some as) : l = c.write as := by
  fun_induction Code.read c l generalizing as with
  | case1 =>
    cases read
    rfl
  | case2 => cases read
  | case3 b bs a rest decoded _ ih =>
    obtain ⟨as', readRest, rfl⟩ := Option.map_eq_some_iff.mp read
    rw [write_cons, ← ih readRest]
    exact c.encodes decoded

theorem read_iff {l : List β} {as : List α} : c.read l = some as ↔ l = c.write as := by
  constructor
  · exact c.write_read
  · rintro rfl
    exact c.read_write as

/-- Another encoding, whose elements of a kind are read as elements of the code and whose others are
refused: the code writes the same only from those. -/
theorem write_eq_iff {P : γ → Prop} {f : γ → α} {g : γ → List β} (nonempty : ∀ x, g x ≠ [])
    (taken : ∀ x rest, P x → c.decode (g x ++ rest) = some (f x, rest))
    (refused : ∀ x rest, ¬ P x → c.decode (g x ++ rest) = none) (as : List α) (xs : List γ) :
    c.write as = xs.flatMap g ↔ as = xs.map f ∧ ∀ x ∈ xs, P x := by
  induction xs generalizing as with
  | nil =>
    cases as with
    | nil => simp
    | cons a as => simp [c.nonempty]
  | cons x xs ih =>
    rw [List.flatMap_cons, List.map_cons, List.forall_mem_cons]
    cases as with
    | nil =>
      refine iff_of_false (fun same => ?_) fun mapped => List.cons_ne_nil _ _ mapped.1.symm
      exact nonempty x (List.append_eq_nil_iff.mp same.symm).1
    | cons a as =>
      rw [write_cons, List.cons.injEq]
      constructor
      · intro same
        have read := c.decodes a (c.write as)
        rw [same] at read
        by_cases kind : P x
        · rw [taken x _ kind, Option.some_inj, Prod.mk.injEq] at read
          obtain ⟨rfl, rest⟩ := read
          obtain ⟨mapped, kinds⟩ := (ih as).mp rest.symm
          exact ⟨⟨rfl, mapped⟩, kind, kinds⟩
        · rw [refused x _ kind] at read
          cases read
      · rintro ⟨⟨rfl, mapped⟩, kind, kinds⟩
        have whole := c.encodes (taken x [] kind)
        rw [List.append_nil, List.append_nil] at whole
        rw [whole, (ih as).mpr ⟨mapped, kinds⟩]

end Code

end Codes
