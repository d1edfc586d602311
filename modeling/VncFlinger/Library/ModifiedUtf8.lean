import Mathlib.Data.Nat.Notation
import Mathlib.Tactic.SplitIfs
import VncFlinger.Library.Codes

/-!
# Modified UTF-8

UTF-16, and the encoding of its units one by one in up to three bytes. Zero takes two bytes, so that
no byte of a text is zero, a character outside the first plane takes six, and half of one takes three.
-/

namespace ModifiedUtf8

open Codes

/-! ### UTF-16 -/

def units (c : Char) : List UInt16 :=
  if c.toNat < 0x10000 then [.ofNat c.toNat]
  else [.ofNat (0xd800 + (c.toNat - 0x10000) / 0x400), .ofNat (0xdc00 + (c.toNat - 0x10000) % 0x400)]

def decodePair (u : UInt16) : List UInt16 → Option (Char × List UInt16)
  | [] => none
  | v :: rest =>
    if 0xdc00 ≤ v.toNat ∧ v.toNat < 0xe000 then
      some (.ofNat (0x10000 + (u.toNat - 0xd800) * 0x400 + (v.toNat - 0xdc00)), rest)
    else none

def decodeChar : List UInt16 → Option (Char × List UInt16)
  | [] => none
  | u :: rest =>
    if u.toNat < 0xd800 ∨ 0xe000 ≤ u.toNat then some (.ofNat u.toNat, rest)
    else if u.toNat < 0xdc00 then decodePair u rest
    else none

theorem char_range (c : Char) : c.toNat < 0xd800 ∨ 0xe000 ≤ c.toNat ∧ c.toNat < 0x110000 := by
  rcases c.valid with low | ⟨low, high⟩
  · exact Or.inl low
  · exact Or.inr ⟨low, high⟩

theorem toNat_char {n : Nat} (valid : n < 0xd800 ∨ 0xe000 ≤ n ∧ n < 0x110000) :
    (Char.ofNat n).toNat = n := by
  have scalar : n.isValidChar := valid.imp_right fun range => ⟨by omega, range.2⟩
  rw [Char.ofNat, dif_pos scalar]
  rfl

theorem toNat_unit {n : Nat} (small : n < 0x10000) : (UInt16.ofNat n).toNat = n :=
  UInt16.toNat_ofNat_of_lt' small

theorem decodes_char (c : Char) (rest : List UInt16) : decodeChar (units c ++ rest) = some (c, rest) := by
  have range := char_range c
  unfold units
  split
  · next basic =>
    rw [List.singleton_append, decodeChar, toNat_unit basic, if_pos (by omega), Char.ofNat_toNat]
  · next outside =>
    have high := toNat_unit (n := 0xd800 + (c.toNat - 0x10000) / 0x400) (by omega)
    have low := toNat_unit (n := 0xdc00 + (c.toNat - 0x10000) % 0x400) (by omega)
    have whole : 0x10000 + (c.toNat - 0x10000) / 0x400 * 0x400 + (c.toNat - 0x10000) % 0x400 = c.toNat := by
      omega
    rw [List.cons_append, List.singleton_append, decodeChar, high, if_neg (by omega), if_pos (by omega),
      decodePair, high, low, if_pos (by omega), Nat.add_sub_cancel_left, Nat.add_sub_cancel_left, whole,
      Char.ofNat_toNat]

theorem encodes_pair {u : UInt16} {l rest : List UInt16} {c : Char} (high : 0xd800 ≤ u.toNat ∧ u.toNat < 0xdc00)
    (decoded : decodePair u l = some (c, rest)) : u :: l = units c ++ rest := by
  cases l with
  | nil => cases decoded
  | cons v l =>
    rw [decodePair] at decoded
    split at decoded
    · next low =>
      obtain ⟨read, rfl⟩ : _ = c ∧ l = rest := by rwa [Option.some_inj, Prod.mk.injEq] at decoded
      obtain ⟨n, value⟩ : ∃ n, n = 0x10000 + (u.toNat - 0xd800) * 0x400 + (v.toNat - 0xdc00) := ⟨_, rfl⟩
      have first : 0xd800 + (n - 0x10000) / 0x400 = u.toNat := by omega
      have second : 0xdc00 + (n - 0x10000) % 0x400 = v.toNat := by omega
      rw [← read, ← value, units, toNat_char (by omega), if_neg (by omega), first, second, UInt16.ofNat_toNat,
        UInt16.ofNat_toNat, List.cons_append, List.singleton_append]
    · cases decoded

theorem encodes_char {l rest : List UInt16} {c : Char} (decoded : decodeChar l = some (c, rest)) :
    l = units c ++ rest := by
  cases l with
  | nil => cases decoded
  | cons u l =>
    rw [decodeChar] at decoded
    split_ifs at decoded with basic high
    · cases decoded
      have small := u.toNat_lt
      rw [units, toNat_char (by omega), if_pos small, UInt16.ofNat_toNat, List.singleton_append]
    · exact encodes_pair (by omega) decoded

def utf16 : Code Char UInt16 where
  encode := units
  decode := decodeChar
  nonempty c := by
    unfold units
    split <;> simp
  decodes := decodes_char
  encodes := encodes_char

/-! ### The bytes of a unit -/

def bytes (u : UInt16) : List UInt8 :=
  if 0 < u.toNat ∧ u.toNat < 0x80 then [.ofNat u.toNat]
  else if u.toNat < 0x800 then [.ofNat (0xc0 + u.toNat / 0x40), .ofNat (0x80 + u.toNat % 0x40)]
  else [.ofNat (0xe0 + u.toNat / 0x1000), .ofNat (0x80 + u.toNat / 0x40 % 0x40), .ofNat (0x80 + u.toNat % 0x40)]

def Tail (b : UInt8) : Prop := 0x80 ≤ b.toNat ∧ b.toNat < 0xc0

instance (b : UInt8) : Decidable (Tail b) := inferInstanceAs (Decidable (_ ∧ _))

/-- A form longer than it needs to be is refused, but for zero. -/
def decodeTwo (a : UInt8) : List UInt8 → Option (UInt16 × List UInt8)
  | [] => none
  | b :: rest =>
    let n := (a.toNat - 0xc0) * 0x40 + (b.toNat - 0x80)
    if Tail b ∧ (n = 0 ∨ 0x80 ≤ n) then some (.ofNat n, rest) else none

def decodeThree (a : UInt8) : List UInt8 → Option (UInt16 × List UInt8)
  | b :: c :: rest =>
    let n := (a.toNat - 0xe0) * 0x1000 + (b.toNat - 0x80) * 0x40 + (c.toNat - 0x80)
    if Tail b ∧ Tail c ∧ 0x800 ≤ n then some (.ofNat n, rest) else none
  | _ => none

def decodeUnit : List UInt8 → Option (UInt16 × List UInt8)
  | [] => none
  | a :: rest =>
    if 0 < a.toNat ∧ a.toNat < 0x80 then some (.ofNat a.toNat, rest)
    else if 0xc0 ≤ a.toNat ∧ a.toNat < 0xe0 then decodeTwo a rest
    else if 0xe0 ≤ a.toNat ∧ a.toNat < 0xf0 then decodeThree a rest
    else none

theorem toNat_byte {n : Nat} (small : n < 0x100) : (UInt8.ofNat n).toNat = n :=
  UInt8.toNat_ofNat_of_lt' small

theorem decodes_unit (u : UInt16) (rest : List UInt8) : decodeUnit (bytes u ++ rest) = some (u, rest) := by
  have range := u.toNat_lt
  unfold bytes
  split
  · next one =>
    rw [List.singleton_append, decodeUnit, toNat_byte (by omega), if_pos one, UInt16.ofNat_toNat]
  · split
    · next many two =>
      have lead := toNat_byte (n := 0xc0 + u.toNat / 0x40) (by omega)
      have tail := toNat_byte (n := 0x80 + u.toNat % 0x40) (by omega)
      have whole : u.toNat / 0x40 * 0x40 + u.toNat % 0x40 = u.toNat := by omega
      simp only [List.cons_append, List.nil_append, decodeUnit, decodeTwo, Tail, lead, tail]
      rw [if_neg (by omega), if_pos (by omega), if_pos (by omega), Nat.add_sub_cancel_left,
        Nat.add_sub_cancel_left, whole, UInt16.ofNat_toNat]
    · next many three =>
      have lead := toNat_byte (n := 0xe0 + u.toNat / 0x1000) (by omega)
      have middle := toNat_byte (n := 0x80 + u.toNat / 0x40 % 0x40) (by omega)
      have tail := toNat_byte (n := 0x80 + u.toNat % 0x40) (by omega)
      have whole : u.toNat / 0x1000 * 0x1000 + u.toNat / 0x40 % 0x40 * 0x40 + u.toNat % 0x40 = u.toNat := by
        omega
      simp only [List.cons_append, List.nil_append, decodeUnit, decodeThree, Tail, lead, middle, tail]
      rw [if_neg (by omega), if_neg (by omega), if_pos (by omega), if_pos (by omega), Nat.add_sub_cancel_left,
        Nat.add_sub_cancel_left, Nat.add_sub_cancel_left, whole, UInt16.ofNat_toNat]

theorem encodes_two {a : UInt8} {l rest : List UInt8} {u : UInt16} (lead : 0xc0 ≤ a.toNat ∧ a.toNat < 0xe0)
    (decoded : decodeTwo a l = some (u, rest)) : a :: l = bytes u ++ rest := by
  cases l with
  | nil => cases decoded
  | cons b l =>
    rw [decodeTwo] at decoded
    split at decoded
    · next two =>
      obtain ⟨⟨low, high⟩, needed⟩ := two
      obtain ⟨read, rfl⟩ : _ = u ∧ l = rest := by rwa [Option.some_inj, Prod.mk.injEq] at decoded
      obtain ⟨n, value⟩ : ∃ n, n = (a.toNat - 0xc0) * 0x40 + (b.toNat - 0x80) := ⟨_, rfl⟩
      have first : 0xc0 + n / 0x40 = a.toNat := by omega
      have second : 0x80 + n % 0x40 = b.toNat := by omega
      rw [← read, ← value, bytes, toNat_unit (by omega), if_neg (by omega), if_pos (by omega), first, second,
        UInt8.ofNat_toNat, UInt8.ofNat_toNat, List.cons_append, List.singleton_append]
    · cases decoded

theorem encodes_three {a : UInt8} {l rest : List UInt8} {u : UInt16} (lead : 0xe0 ≤ a.toNat ∧ a.toNat < 0xf0)
    (decoded : decodeThree a l = some (u, rest)) : a :: l = bytes u ++ rest := by
  cases l with
  | nil => cases decoded
  | cons b l =>
    cases l with
    | nil => cases decoded
    | cons c l =>
      rw [decodeThree] at decoded
      split at decoded
      · next three =>
        obtain ⟨⟨low, high⟩, ⟨low', high'⟩, needed⟩ := three
        obtain ⟨read, rfl⟩ : _ = u ∧ l = rest := by rwa [Option.some_inj, Prod.mk.injEq] at decoded
        obtain ⟨n, value⟩ : ∃ n, n = (a.toNat - 0xe0) * 0x1000 + (b.toNat - 0x80) * 0x40 + (c.toNat - 0x80) :=
          ⟨_, rfl⟩
        have first : 0xe0 + n / 0x1000 = a.toNat := by omega
        have second : 0x80 + n / 0x40 % 0x40 = b.toNat := by omega
        have third : 0x80 + n % 0x40 = c.toNat := by omega
        rw [← read, ← value, bytes, toNat_unit (by omega), if_neg (by omega), if_neg (by omega), first, second,
          third, UInt8.ofNat_toNat, UInt8.ofNat_toNat, UInt8.ofNat_toNat]
        rfl
      · cases decoded

theorem encodes_unit {l rest : List UInt8} {u : UInt16} (decoded : decodeUnit l = some (u, rest)) :
    l = bytes u ++ rest := by
  cases l with
  | nil => cases decoded
  | cons a l =>
    rw [decodeUnit] at decoded
    split_ifs at decoded with one two three
    · cases decoded
      have small := a.toNat_lt
      rw [bytes, toNat_unit (by omega), if_pos one, UInt8.ofNat_toNat, List.singleton_append]
    · exact encodes_two two decoded
    · exact encodes_three three decoded

def utf8 : Code UInt16 UInt8 where
  encode := bytes
  decode := decodeUnit
  nonempty u := by
    unfold bytes
    split_ifs <;> simp
  decodes := decodes_unit
  encodes := encodes_unit

/-! ### Texts -/

theorem bytes_ne_zero {u : UInt16} {b : UInt8} (written : b ∈ bytes u) : b ≠ 0 := by
  have range := u.toNat_lt
  have nonzero {n : ℕ} (pos : 0 < n) (small : n < 0x100) : UInt8.ofNat n ≠ 0 := by
    intro zero
    have value := congrArg UInt8.toNat zero
    rw [toNat_byte small] at value
    exact absurd value (Nat.ne_of_gt pos)
  unfold bytes at written
  split_ifs at written with one two
  all_goals
    simp only [List.mem_cons, List.not_mem_nil, or_false] at written
  · rw [written]
    exact nonzero one.1 (by omega)
  · rcases written with rfl | rfl
    all_goals exact nonzero (by omega) (by omega)
  · rcases written with rfl | rfl | rfl
    all_goals exact nonzero (by omega) (by omega)

theorem write_ne_zero {text : List UInt16} {b : UInt8} (written : b ∈ utf8.write text) : b ≠ 0 := by
  obtain ⟨u, _, byte⟩ := List.mem_flatMap.mp written
  exact bytes_ne_zero byte

theorem write_injective {text text' : List UInt16} (same : utf8.write text = utf8.write text') : text = text' := by
  have read := utf8.read_write text
  rw [same, utf8.read_write] at read
  exact (Option.some.inj read).symm

/-! ### UTF-8 -/

/-- The characters whose UTF-8 is the modified one. -/
def Plain (c : Char) : Prop := c ≠ Char.ofNat 0 ∧ c.toNat < 0x10000

theorem plain_bytes {c : Char} (plain : Plain c) : bytes (.ofNat c.toNat) = String.utf8EncodeChar c := by
  obtain ⟨nonzero, basic⟩ := plain
  have pos : 0 < c.toNat := by
    by_contra zero
    apply nonzero
    rw [← Char.ofNat_toNat c, show c.toNat = 0 by omega]
  have value : c.val.toNat = c.toNat := rfl
  rw [bytes, toNat_unit basic]
  simp only [String.utf8EncodeChar, value]
  by_cases one : c.toNat < 0x80
  · rw [if_pos ⟨pos, one⟩, if_pos (by omega)]
  · have more : ¬ c.toNat ≤ 0x7f := by omega
    rw [if_neg fun low => one low.2, if_neg more]
    by_cases two : c.toNat < 0x800
    · have lead : 0xc0 + c.toNat / 0x40 = c.toNat / 64 % 0x20 + 0xc0 := by omega
      rw [if_pos two, if_pos (by omega), lead, Nat.add_comm 0x80]
    · have lead : 0xe0 + c.toNat / 0x1000 = c.toNat / 4096 % 0x10 + 0xe0 := by omega
      have most : ¬ c.toNat ≤ 0x7ff := by omega
      rw [if_neg two, if_neg most, if_pos (by omega), lead, Nat.add_comm 0x80, Nat.add_comm 0x80]

/-- No unit begins with the first byte that UTF-8 has for another character. -/
theorem other_refused {c : Char} (other : ¬ Plain c) (rest : List UInt8) :
    decodeUnit (String.utf8EncodeChar c ++ rest) = none := by
  by_cases basic : c.toNat < 0x10000
  · have zero : c = Char.ofNat 0 := by
      by_contra nonzero
      exact other ⟨nonzero, basic⟩
    rw [zero]
    rfl
  · have range := char_range c
    have value : c.val.toNat = c.toNat := rfl
    have lead := toNat_byte (n := c.toNat / 262144 % 0x08 + 0xf0) (by omega)
    simp only [String.utf8EncodeChar, value]
    rw [if_neg (by omega), if_neg (by omega), if_neg (by omega), List.cons_append, decodeUnit, lead,
      if_neg (by omega), if_neg (by omega), if_neg (by omega)]

theorem utf16_write_plain {chars : List Char} (plain : ∀ c ∈ chars, Plain c) :
    utf16.write chars = chars.map fun c => .ofNat c.toNat := by
  induction chars with
  | nil => rfl
  | cons c chars ih =>
    have here : units c = [.ofNat c.toNat] := by rw [units, if_pos (plain c List.mem_cons_self).2]
    rw [utf16.write_cons, ih fun c member => plain c (List.mem_cons_of_mem _ member)]
    show units c ++ _ = _
    rw [here]
    rfl

/-- The modified form of a text is the UTF-8 of some characters exactly if they are the text's own, and
of the kind that both write alike. -/
theorem write_eq_utf8_iff (text : List UInt16) (chars : List Char) :
    utf8.write text = chars.flatMap String.utf8EncodeChar ↔
      utf16.read text = some chars ∧ ∀ c ∈ chars, Plain c := by
  have taken : ∀ c rest, Plain c → utf8.decode (String.utf8EncodeChar c ++ rest) = some (.ofNat c.toNat, rest) := by
    intro c rest plain
    rw [← plain_bytes plain]
    exact decodes_unit _ rest
  rw [utf8.write_eq_iff (fun _ => String.utf8EncodeChar_ne_nil) taken fun c rest other => other_refused other rest,
    utf16.read_iff]
  constructor
  · rintro ⟨mapped, plain⟩
    exact ⟨mapped.trans (utf16_write_plain plain).symm, plain⟩
  · rintro ⟨written, plain⟩
    exact ⟨written.trans (utf16_write_plain plain), plain⟩

end ModifiedUtf8
