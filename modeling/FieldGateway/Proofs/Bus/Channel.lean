import FieldGateway.Bus.Channel
import Mathlib.Algebra.Group.Nat.Defs
import Mathlib.Data.List.Basic
import Mathlib.Data.Nat.Log

/-
  The ring of a broadcast channel. It has room for the least power of two that is not below the
  capacity (`size_ofCapacity`), and it keeps the end of what was sent (`Channel.Keeps`). So the
  position of a receiver says what it finds: once it has reached the ring, reading on is a search
  in what was sent from there on (`receiveNext_reached`), and before that the ring moves it up
  first (`receiveNext_eq`, `tryReceive_behind`).
-/

namespace FieldGateway.Bus

theorem ringSize_eq {capacity fuel k : Nat} (low : k ≤ Nat.clog 2 capacity)
    (high : Nat.clog 2 capacity ≤ k + fuel) :
    ringSize capacity fuel (2 ^ k) = 2 ^ Nat.clog 2 capacity := by
  induction fuel generalizing k with
  | zero =>
    have : k = Nat.clog 2 capacity := by omega
    rw [ringSize, this]
  | succ fuel ih =>
    rw [ringSize]
    split
    · rename_i room
      have : k = Nat.clog 2 capacity := by
        have := Nat.clog_le_of_le_pow room
        omega
      rw [this]
    · rename_i short
      have : k < Nat.clog 2 capacity := (Nat.lt_clog_iff_pow_lt Nat.one_lt_two).2 (by omega)
      rw [← Nat.pow_succ']
      exact ih this (by omega)

namespace Channel

variable {α : Type} {c : Channel α} {log : List α} {wanted : α → Bool} {fuel : Nat}

@[simp] theorem closed_send (c : Channel α) (m : α) : (c.send m).closed = c.closed := rfl

@[simp] theorem size_send (c : Channel α) (m : α) : (c.send m).size = c.size := rfl

theorem size_ofCapacity (capacity : Nat) :
    (ofCapacity capacity : Channel α).size = 2 ^ Nat.clog 2 capacity :=
  ringSize_eq (k := 0) (Nat.zero_le _)
    (by simpa using Nat.clog_le_of_le_pow (Nat.le_of_lt Nat.lt_two_pow_self))

/-! ## What the ring keeps -/

/-- The channel has sent the messages of the log, and its ring keeps the last of them. -/
structure Keeps (c : Channel α) (log : List α) : Prop where
  sent : c.sent = log.length
  kept : c.kept = log.drop (log.length - c.size)

theorem keeps_ofCapacity (capacity : Nat) : Keeps (ofCapacity capacity : Channel α) [] :=
  ⟨rfl, List.drop_nil.symm⟩

theorem Keeps.send (h : Keeps c log) (m : α) : Keeps (c.send m) (log ++ [m]) := by
  refine ⟨by simp [Channel.send, h.sent], ?_⟩
  have whole : c.kept ++ [m] = (log ++ [m]).drop (log.length - c.size) := by
    rw [h.kept, List.drop_append_of_le_length (Nat.sub_le _ _)]
  simp only [Channel.send, whole, List.drop_drop, List.length_drop, List.length_append,
    List.length_singleton]
  congr 1
  omega

theorem Keeps.close (h : Keeps c log) (closed : Bool) : Keeps { c with closed } log :=
  ⟨h.sent, h.kept⟩

theorem Keeps.oldest (h : Keeps c log) : c.oldest = log.length - c.size := by
  rw [Channel.oldest, h.sent, h.kept, List.length_drop]
  omega

/-- A receiver that the ring has not passed finds the message of its number. -/
theorem Keeps.receive (h : Keeps c log) {r : Receiver} (reached : c.oldest ≤ r.next) :
    c.receive r = log[r.next]?.elim (.nothing, r) fun m => (.message m, ⟨r.next + 1⟩) := by
  have found : c.kept[r.next - c.oldest]? = log[r.next]? := by
    rw [h.kept, List.getElem?_drop, ← h.oldest]
    congr 1
    omega
  unfold Channel.receive
  simp only [found, if_neg (Nat.not_lt.2 reached)]
  cases log[r.next]? with
  | none => rfl
  | some m => rfl

theorem receive_behind {r : Receiver} (behind : r.next < c.oldest) :
    c.receive r = (.lagged (c.oldest - r.next), ⟨c.oldest⟩) := by
  rw [receive, if_pos behind]

/-! ## Reading on -/

/-- Where a search for something wanted ends in what is left: after what it finds, or at the end. -/
def passed (wanted : α → Bool) (left : List α) : Nat :=
  min (left.findIdx wanted + 1) left.length

theorem passed_cons (wanted : α → Bool) (m : α) (left : List α) :
    passed wanted (m :: left) = if wanted m then 1 else passed wanted left + 1 := by
  unfold passed
  rw [List.findIdx_cons, List.length_cons]
  cases wanted m with
  | true => simp only [if_true, cond_true]; omega
  | false => simp only [cond_false, Bool.false_eq_true, if_false]; omega

/-- Reading on from within the ring is a search in what was sent from there on. -/
theorem receiveNext_reached (h : Keeps c log) {r : Receiver} (reached : c.oldest ≤ r.next)
    (enough : log.length - r.next < fuel) :
    c.receiveNext wanted fuel r =
      ((log.drop r.next).find? wanted, ⟨r.next + passed wanted (log.drop r.next)⟩) := by
  induction fuel generalizing r with
  | zero => omega
  | succ fuel ih =>
    rw [receiveNext, h.receive reached]
    by_cases more : r.next < log.length
    · have left := List.drop_eq_getElem_cons more
      rw [List.getElem?_eq_getElem more, left, passed_cons, List.find?_cons]
      cases hw : wanted log[r.next] with
      | true => simp only [Option.elim_some, hw, if_true]
      | false =>
        simp only [Option.elim_some, hw, Bool.false_eq_true, if_false]
        rw [ih (r := ⟨r.next + 1⟩) (by dsimp only; omega) (by dsimp only; omega)]
        dsimp only
        congr 2
        omega
    · rw [List.getElem?_eq_none (by omega), List.drop_eq_nil_of_le (by omega)]
      rfl

/-- A receiver that the ring has not passed never lags. -/
theorem tryReceive_reached (h : Keeps c log) {r : Receiver} (reached : c.oldest ≤ r.next) :
    c.tryReceive wanted fuel r = c.receiveNext wanted fuel r := by
  induction fuel generalizing r with
  | zero => rfl
  | succ fuel ih =>
    rw [tryReceive, receiveNext, h.receive reached]
    cases log[r.next]? with
    | none => rfl
    | some m =>
      dsimp only [Option.elim_some]
      rw [ih (r := ⟨r.next + 1⟩) (by dsimp only; omega)]

/-- A receiver that the ring has passed is moved up to the oldest message kept. -/
theorem receiveNext_behind {r : Receiver} (behind : r.next < c.oldest) :
    c.receiveNext wanted (fuel + 1) r = c.receiveNext wanted fuel ⟨c.oldest⟩ := by
  rw [receiveNext, receive_behind behind]

theorem tryReceive_behind {r : Receiver} (behind : r.next < c.oldest) :
    c.tryReceive wanted (fuel + 1) r = (none, ⟨c.oldest⟩) := by
  rw [tryReceive, receive_behind behind]

/-- The steps counted are enough, also for a receiver that was passed. -/
theorem Keeps.remaining (h : Keeps c log) (r : Receiver) :
    log.length - max r.next c.oldest < c.remaining r := by
  have : c.kept.length = log.length - c.oldest := by rw [h.oldest, h.kept, List.length_drop]
  rw [Channel.remaining, this]
  omega

/-- What a receiver gets that reads on from anywhere. -/
theorem receiveNext_eq (wanted : α → Bool) (h : Keeps c log) (r : Receiver) :
    let from' := max r.next c.oldest
    c.receiveNext wanted (c.remaining r + 1) r =
      ((log.drop from').find? wanted, ⟨from' + passed wanted (log.drop from')⟩) := by
  intro from'
  have enough := h.remaining r
  by_cases behind : r.next < c.oldest
  · have at' : from' = c.oldest := by omega
    rw [receiveNext_behind behind, receiveNext_reached h (r := ⟨c.oldest⟩) (Nat.le_refl _)
      (by dsimp only; omega), at']
  · have at' : from' = r.next := by omega
    rw [receiveNext_reached h (by omega) (by omega), at']

end Channel

end FieldGateway.Bus
