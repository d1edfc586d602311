import VncFlinger.Library.Buffers
import VncFlinger.Audio.Sockets

/-!
# Names of abstract sockets

The audio streamer and the VNC server make an address of a name in the same way, each in a function of
its own. Only the server's looks at the name's length before it copies it.
-/

namespace VncFlinger.Addresses

open Buffers

/-- `sizeof(addr.sun_path)` -/
abbrev sunPathSize : ℕ := 108

/-- A call of `bind`: the part of `sun_path` that is the address, the length passed with it, and what
was written from the start of `sun_path` on before. -/
structure Binding where
  sun_path : List UInt8
  addrlen : ℕ
  writes : List Write
  deriving DecidableEq, Repr

def addressWrites (name : CString) : List Write := [memset sunPathSize, strcpy name, ⟨0, [0]⟩]

/-- From `memset` to `bind`, on a stack that holds anything. -/
def bindName (stack : Memory) (name : CString) : Binding :=
  { sun_path := read (store (addressWrites name) stack) name.strlen
    addrlen := 2 + name.strlen
    writes := addressWrites name }

/-- `createUnixSocket` up to `bind`, with the descriptor that `socket` returns. Nothing is copied if
there is no binding. -/
def createUnixSocket (stack : Memory) (sock : ℤ) (name : CString) : Option Binding :=
  if sock ≤ 0 then none else some (bindName stack name)

def absUnixListener (stack : Memory) (fd : ℤ) (name : CString) : Option Binding :=
  if sunPathSize ≤ name.strlen then none
  else if fd < 0 then none
  else some (bindName stack name)

theorem createUnixSocket_binds_iff (stack : Memory) (o : Audio.Creation) (name : CString) :
    (createUnixSocket stack o.socket name).isSome = true ↔
      .bind o.socket o.bind ∈ (Audio.createUnixSocket o).2 := by
  unfold createUnixSocket
  by_cases failed : o.socket ≤ 0
  · rw [if_pos failed]
    have none : Audio.createUnixSocket o = (o.socket, [.socket o.socket]) := by
      have kept : ¬ 0 < o.socket := Int.not_lt.mpr failed
      simp [Audio.createUnixSocket, Audio.logged, Audio.cleanUp, failed, kept]
    simp [none]
  · rw [if_neg failed]
    unfold Audio.createUnixSocket Audio.logged
    dsimp only
    rw [if_neg failed]
    split
    · simp
    · split <;> simp

structure Binding.IsAbstract (b : Binding) (name : CString) : Prop where
  path : b.sun_path = name.chars.set 0 0
  length : b.addrlen = 2 + name.chars.length
  within : Within sunPathSize b.writes

/-- Both refuse the name, or both bind the same abstract address. Descriptor 0 is left out: the
streamer takes it for a failure of `socket`, whatever the name. -/
def Agree (name : CString) : Prop :=
  ∀ (stack stack' : Memory) (fd : ℤ), fd ≠ 0 →
    createUnixSocket stack fd name = none ∧ absUnixListener stack' fd name = none ∨
    ∃ b, createUnixSocket stack fd name = some b ∧ absUnixListener stack' fd name = some b ∧ b.IsAbstract name

theorem bindName_eq (stack : Memory) (name : CString) :
    bindName stack name = ⟨name.chars.set 0 0, 2 + name.chars.length, addressWrites name⟩ := by
  have path : read (store (addressWrites name) stack) name.strlen = name.chars.set 0 0 := read_poke name 0
  rw [bindName, path, strlen_eq]

theorem addressWrites_within_iff (name : CString) :
    Within sunPathSize (addressWrites name) ↔ name.strlen < sunPathSize := by
  simp only [addressWrites, within_cons, strcpy_within_iff]
  simp [memset, Within, sunPathSize]

theorem stack_kept (stack : Memory) {name : CString} (fits : name.strlen < sunPathSize) {i : ℕ}
    (behind : sunPathSize ≤ i) : store (addressWrites name) stack i = stack i :=
  store_beyond ((addressWrites_within_iff name).mpr fits) behind

theorem agree_iff (name : CString) : Agree name ↔ name.strlen < sunPathSize := by
  constructor
  · intro agree
    rcases agree (fun _ => 0) (fun _ => 0) 1 (by decide) with ⟨refused, -⟩ | ⟨b, -, bound, -⟩
    · simp [createUnixSocket] at refused
    · by_contra long
      simp [absUnixListener, Nat.not_lt.mp long] at bound
  · intro fits stack stack' fd notZero
    by_cases failed : fd < 0
    · left
      have none : fd ≤ 0 := Int.le_of_lt failed
      simp [createUnixSocket, absUnixListener, failed, none]
    · right
      have obtained : ¬ fd ≤ 0 := by omega
      refine ⟨bindName stack name, ?_, ?_, ?_⟩
      · simp [createUnixSocket, obtained]
      · simp [absUnixListener, Nat.not_le.mpr fits, failed, bindName_eq]
      · rw [bindName_eq]
        exact ⟨rfl, rfl, (addressWrites_within_iff name).mpr fits⟩

def longName : CString := ⟨List.replicate 108 0x61, by decide⟩

/-- The server refuses it, and the streamer copies it with its zero behind `sun_path`. -/
theorem long_name_overflows :
    (∀ stack, absUnixListener stack 5 longName = none) ∧
      (∀ stack, ∃ b, createUnixSocket stack 5 longName = some b ∧ ¬ Within sunPathSize b.writes) ∧
      ¬ Agree longName := by
  have long : sunPathSize ≤ longName.strlen := by
    rw [strlen_eq]
    simp [longName]
  have overflow : ¬ Within sunPathSize (addressWrites longName) :=
    fun within => Nat.not_lt.mpr long ((addressWrites_within_iff longName).mp within)
  refine ⟨fun stack => if_pos long, fun stack => ⟨bindName stack longName, rfl, overflow⟩, fun agree => ?_⟩
  rcases agree (fun _ => 0) (fun _ => 0) 5 (by decide) with ⟨refused, -⟩ | ⟨b, -, bound, -⟩
  · cases refused
  · rw [absUnixListener, if_pos long] at bound
    cases bound

end VncFlinger.Addresses
