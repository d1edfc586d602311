import VncFlinger.Library.Runs

/-!
# Frames between reports

A stream is cut into frames by its reports. In a framed stream a frame has at most one element of
a kind, and the last frame is finished, so framed streams can be put one after the other.
-/

namespace Framing

variable {α : Type*} {single report : α → Bool}

/-- A reader remembers whether the unfinished frame has an element of the kind. -/
def pending (single report : α → Bool) (p : Bool) (a : α) : Bool :=
  if report a then false else p || single a

structure Framed (single report : α → Bool) (l : List α) : Prop where
  alone : Runs.Along (pending single report) (fun p a => single a = true → p = false) false l
  finished : ∀ a, l.getLast? = some a → report a = true

theorem framed_nil : Framed single report [] := ⟨trivial, nofun⟩

theorem Framed.pending {l : List α} (framed : Framed single report l) :
    l.foldl (pending single report) false = false := by
  rcases List.eq_nil_or_concat l with rfl | ⟨front, a, rfl⟩
  · rfl
  · rw [List.concat_eq_append] at framed ⊢
    have ends := framed.finished a List.getLast?_concat
    rw [List.foldl_append]
    simp [Framing.pending, ends]

theorem Framed.append {l l' : List α} (first : Framed single report l) (second : Framed single report l') :
    Framed single report (l ++ l') := by
  refine ⟨Runs.along_append.mpr ⟨first.alone, ?_⟩, ?_⟩
  · rw [first.pending]
    exact second.alone
  · intro a last
    rw [List.getLast?_append] at last
    cases rest : l'.getLast? with
    | none =>
      rw [rest] at last
      exact first.finished a last
    | some b =>
      rw [rest] at last
      exact second.finished a (rest.trans last)

theorem framed_flatMap {β : Type*} {f : β → List α} (bs : List β)
    (each : ∀ b ∈ bs, Framed single report (f b)) : Framed single report (bs.flatMap f) := by
  induction bs with
  | nil => exact framed_nil
  | cons b rest ih =>
    rw [List.flatMap_cons]
    apply Framed.append (each b List.mem_cons_self)
    exact ih fun b' member => each b' (List.mem_cons_of_mem b member)

/-- Elements of other kinds may stand before. -/
theorem Framed.cons {l : List α} {a b : α} (other : single a = false)
    (framed : Framed single report (b :: l)) : Framed single report (a :: b :: l) := by
  have quiet : Framing.pending single report false a = false := by simp [Framing.pending, other]
  refine ⟨⟨fun _ => rfl, ?_⟩, ?_⟩
  · rw [quiet]
    exact framed.alone
  · intro c last
    rw [List.getLast?_cons_cons] at last
    exact framed.finished c last

theorem framed_report {r : α} (reports : report r = true) : Framed single report [r] := by
  refine ⟨⟨fun _ => rfl, trivial⟩, ?_⟩
  rintro a ⟨⟩
  exact reports

theorem framed_single {a r : α} (other : single r = false) (reports : report r = true) :
    Framed single report [a, r] := by
  refine ⟨⟨fun _ => rfl, fun kind => ?_, trivial⟩, ?_⟩
  · rw [other] at kind
    cases kind
  · rintro b ⟨⟩
    exact reports

end Framing
