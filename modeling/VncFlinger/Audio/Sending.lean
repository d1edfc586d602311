import Mathlib.Data.List.TakeDrop
import VncFlinger.Library.Transfers
import VncFlinger.Audio.Streamer

/-!
# Sending a block

`sendDataSocket` with its pointer and its count, and the record loop that calls it. The count is
what the pointer still has before it, whatever the socket takes at a time.
-/

namespace VncFlinger.Audio

open Transfers

/-- What each call of `canSend` and `send` answers, by the number of rounds before it. A `send`
takes no more than it is given. -/
structure Peer where
  canSend : ℕ → Bool
  send : ℕ → ℤ → ℤ
  most : ∀ n size, 0 < send n size → send n size ≤ size

/-- A call of `send`: where its pointer is in the data, the size it asks for and its result. -/
structure Sending where
  ptr : ℕ
  size : ℤ
  bytes : ℤ
  deriving DecidableEq, Repr

def Sending.piece (call : Sending) : Piece := ⟨call.ptr, call.bytes.toNat⟩

/-- The loop of `sendDataSocket` from its n-th round on: what it returns, and the calls of `send`. -/
def sendLoop (peer : Peer) (timeout : ℤ) : ℕ → ℕ → ℕ → ℤ → Option (Bool × List Sending)
  | 0, _, _, _ => none
  | fuel + 1, n, ptr, count =>
    if 0 < timeout ∧ peer.canSend n = false then some (false, [])
    else
      let size := count
      let bytes := peer.send n size
      if 0 < bytes then
        if count - bytes = 0 then some (true, [⟨ptr, size, bytes⟩])
        else
          (sendLoop peer timeout fuel (n + 1) (ptr + bytes.toNat) (count - bytes)).map fun later =>
            (later.1, ⟨ptr, size, bytes⟩ :: later.2)
      else some (false, [⟨ptr, size, bytes⟩])

def sendDataSocket (peer : Peer) (data : List UInt8) (timeout : ℤ) (fuel : ℕ) : Option (Bool × List Sending) :=
  sendLoop peer timeout fuel 0 0 data.length

/-! ### One block -/

/-- The calls hand over the positions from `ptr` to `stop` in order, each asks for all that is left,
and the loop returns true if it gets to the end. -/
structure Handed (ptr length stop : ℕ) (outcome : Bool × List Sending) : Prop where
  pieces : Contiguous ptr (outcome.2.map Sending.piece) stop
  within : stop ≤ length
  whole : outcome.1 = true ↔ stop = length
  sizes : ∀ call ∈ outcome.2, 0 < call.size ∧ call.ptr + call.size = length

theorem Handed.refused {ptr length : ℕ} (before : ptr < length) : Handed ptr length ptr (false, []) :=
  ⟨.nil _, Nat.le_of_lt before, by simp [Nat.ne_of_lt before], by simp⟩

theorem Handed.done (length : ℕ) : Handed length length length (true, []) :=
  ⟨.nil _, Nat.le_refl _, by simp, by simp⟩

theorem Handed.cons {ptr length stop : ℕ} {bytes : ℤ} {later : Bool × List Sending} (before : ptr < length)
    (handed : Handed (ptr + bytes.toNat) length stop later) :
    Handed ptr length stop (later.1, ⟨ptr, (length : ℤ) - ptr, bytes⟩ :: later.2) := by
  refine ⟨.cons handed.pieces, handed.within, handed.whole, ?_⟩
  intro call member
  rcases List.mem_cons.mp member with rfl | member
  · dsimp only
    omega
  · exact handed.sizes call member

/-- From any round with something left, by induction on what is left. -/
theorem sendLoop_handed (peer : Peer) (timeout : ℤ) {length : ℕ} (fuel n ptr : ℕ) (before : ptr < length)
    (enough : length ≤ ptr + fuel) :
    ∃ outcome stop, sendLoop peer timeout fuel n ptr ((length : ℤ) - ptr) = some outcome ∧
      Handed ptr length stop outcome := by
  induction fuel generalizing n ptr with
  | zero => omega
  | succ fuel ih =>
    unfold sendLoop
    split
    case isTrue => exact ⟨_, ptr, rfl, .refused before⟩
    case isFalse =>
      have most := peer.most n ((length : ℤ) - ptr)
      dsimp only
      generalize peer.send n ((length : ℤ) - ptr) = bytes at most ⊢
      split
      case isFalse failed =>
        have stays : ptr + bytes.toNat = ptr := by omega
        have none : Handed (ptr + bytes.toNat) length ptr (false, []) := by
          rw [stays]
          exact .refused before
        exact ⟨_, ptr, rfl, none.cons before⟩
      case isTrue taken =>
        have most := most taken
        split
        case isTrue =>
          have stop : ptr + bytes.toNat = length := by omega
          have done : Handed (ptr + bytes.toNat) length length (true, []) := by
            rw [stop]
            exact .done length
          exact ⟨_, length, rfl, done.cons before⟩
        case isFalse =>
          have left : (length : ℤ) - ptr - bytes = length - (ptr + bytes.toNat : ℕ) := by omega
          obtain ⟨later, stop, returns, handed⟩ := ih (n + 1) (ptr + bytes.toNat) (by omega) (by omega)
          rw [left, returns]
          exact ⟨_, stop, rfl, handed.cons before⟩

structure SendsPrefix (data : List UInt8) (success : Bool) (calls : List Sending) : Prop where
  inOrder : ∃ k ≤ data.length, positions (calls.map Sending.piece) = List.range k ∧
    (success = true ↔ k = data.length)
  accepted : received data (calls.map Sending.piece) <+: data
  whole : success = true ↔ received data (calls.map Sending.piece) = data
  positive : ∀ call ∈ calls, 0 < call.size
  inside : ∀ call ∈ calls, call.ptr + call.size ≤ data.length

theorem Handed.sendsPrefix {data : List UInt8} {stop : ℕ} {outcome : Bool × List Sending}
    (handed : Handed 0 data.length stop outcome) : SendsPrefix data outcome.1 outcome.2 := by
  have accepted := handed.pieces.received_prefix data
  refine ⟨⟨stop, handed.within, ?_, handed.whole⟩, ?_, ?_, ?_, ?_⟩
  · rw [handed.pieces.positions_eq, Nat.sub_zero, List.range_eq_range']
  · rw [accepted]
    exact List.take_prefix stop data
  · rw [accepted, handed.whole, List.take_eq_self_iff]
    exact ⟨Nat.le_of_eq ∘ Eq.symm, Nat.le_antisymm handed.within⟩
  · exact fun call member => (handed.sizes call member).1
  · exact fun call member => Int.le_of_eq (handed.sizes call member).2

theorem sendDataSocket_handed (peer : Peer) (data : List UInt8) (timeout : ℤ) (block : 0 < data.length)
    {fuel : ℕ} (enough : data.length ≤ fuel) :
    ∃ outcome stop, sendDataSocket peer data timeout fuel = some outcome ∧ Handed 0 data.length stop outcome := by
  simpa [sendDataSocket] using sendLoop_handed peer timeout fuel 0 0 block (by omega)

def narrowPeer : Peer := ⟨fun _ => true, fun _ size => min size 2, fun _ _ _ => Int.min_le_left _ _⟩

example : sendDataSocket narrowPeer [1, 2, 3] 0 3 = some (true, [⟨0, 3, 2⟩, ⟨2, 1, 1⟩]) := by decide

/-! ### A connection -/

/-- What `AudioRecord::read` puts into the buffer, nothing if it fails, and the socket during the send. -/
structure Block where
  data : List UInt8
  peer : Peer

def Block.sending (b : Block) : Bool × List Sending :=
  (sendDataSocket b.peer b.data 0 b.data.length).getD (false, [])

def Block.round (b : Block) : Round := ⟨b.data.length, b.sending.1⟩

def Block.accepted (b : Block) : List UInt8 := received b.data (b.sending.2.map Sending.piece)

def Call.isSend : Call → Bool
  | .send _ _ => true
  | _ => false

/-- The bytes the client gets: those of the blocks that the record loop sends. -/
def streamed (nSock : ℤ) (blocks : List Block) : List UInt8 :=
  ((blocks.filter (!·.data.isEmpty)).take
    ((recordLoop nSock (blocks.map Block.round)).countP Call.isSend)).flatMap Block.accepted

theorem Block.sendsPrefix (b : Block) (read : 0 < b.data.length) :
    SendsPrefix b.data b.sending.1 b.sending.2 := by
  obtain ⟨outcome, stop, returns, handed⟩ := sendDataSocket_handed b.peer b.data 0 read (Nat.le_refl _)
  rw [Block.sending, returns]
  exact handed.sendsPrefix

theorem send_after_read (nSock : ℤ) (rounds : List Round) {before after : List Call} {ok : Bool}
    (sent : recordLoop nSock rounds = before ++ .send nSock ok :: after) :
    ∃ earlier n, before = earlier ++ [.read n] ∧ 0 < n := by
  induction rounds generalizing before with
  | nil => simp [recordLoop] at sent
  | cons round rest ih =>
    unfold recordLoop at sent
    -- the first call is a read, and a send that follows it at once has its length
    rcases before with _ | ⟨first, _ | ⟨second, before⟩⟩
    · split at sent
      · cases sent
      · split at sent <;> cases sent
    · split at sent
      case isTrue =>
        obtain ⟨earlier, n, none, -⟩ := ih (show _ = [] ++ _ from (List.cons.inj sent).2)
        simp at none
      case isFalse read =>
        refine ⟨[], round.iReadLen, ?_, by omega⟩
        split at sent <;> obtain ⟨rfl, -⟩ := List.cons.inj sent <;> rfl
    · split at sent
      case isTrue =>
        obtain ⟨earlier, n, same, positive⟩ := ih (List.cons.inj sent).2
        exact ⟨first :: earlier, n, by rw [same]; rfl, positive⟩
      case isFalse =>
        split at sent
        · obtain ⟨earlier, n, same, positive⟩ := ih (List.cons.inj (List.cons.inj sent).2).2
          exact ⟨first :: second :: earlier, n, by rw [same]; rfl, positive⟩
        · simp at sent

theorem streamed_prefix (nSock : ℤ) (blocks : List Block) :
    streamed nSock blocks <+: blocks.flatMap Block.data := by
  induction blocks with
  | nil => exact List.prefix_rfl
  | cons b rest ih =>
    by_cases failed : b.data = []
    · have skipped : streamed nSock (b :: rest) = streamed nSock rest := by
        simp [streamed, recordLoop, Block.round, failed, Call.isSend]
      simpa [skipped, failed] using ih
    · have read : 0 < b.data.length := List.length_pos_of_ne_nil failed
      have sends := b.sendsPrefix read
      have positive : ¬ (b.data.length : ℤ) ≤ 0 := by omega
      rw [List.flatMap_cons]
      cases whole : b.sending.1 with
      | true =>
        have all : b.accepted = b.data := sends.whole.mp whole
        have next : streamed nSock (b :: rest) = b.data ++ streamed nSock rest := by
          have one (log : List Call) : (Call.send nSock true :: log).countP Call.isSend =
              log.countP Call.isSend + 1 := List.countP_cons_of_pos rfl
          simp [streamed, recordLoop, Block.round, failed, whole, Call.isSend, one, all]
        rw [next]
        exact (List.prefix_append_right_inj _).mpr ih
      | false =>
        have last : streamed nSock (b :: rest) = b.accepted := by
          simp [streamed, recordLoop, Block.round, failed, whole, Call.isSend]
        rw [last]
        exact sends.accepted.trans (List.prefix_append _ _)

end VncFlinger.Audio
