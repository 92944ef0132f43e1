/-
  A broadcast channel: a ring that keeps the last messages for every receiver to read at its own
  pace. A receiver that falls behind the ring is told so once and goes on at the oldest message
  kept. What is sent while nobody listens is lost.
-/

namespace FieldGateway.Bus

/-- The least power of two, counted up from `size`, that is not below the capacity. -/
def ringSize (capacity : Nat) : (fuel size : Nat) → Nat
  | 0, size => size
  | fuel + 1, size => if capacity ≤ size then size else ringSize capacity fuel (2 * size)

structure Channel (α : Type) where
  /-- How many messages the ring keeps. -/
  size : Nat
  /-- How many messages were sent. -/
  sent : Nat
  /-- The messages kept, the oldest first. -/
  kept : List α
  closed : Bool

/-- A receiver reads the message of this number next. -/
structure Receiver where
  next : Nat
deriving DecidableEq, Repr

/-- What a receiver finds. -/
inductive Found (α : Type) where
  | message (m : α)
  /-- So many messages were missed. -/
  | lagged (missed : Nat)
  | nothing
deriving Repr

namespace Channel

variable {α : Type}

/-- A channel whose ring has room for the capacity, rounded up to a power of two. -/
def ofCapacity (capacity : Nat) : Channel α := ⟨ringSize capacity capacity 1, 0, [], false⟩

/-- The number of the oldest message kept. -/
def oldest (c : Channel α) : Nat := c.sent - c.kept.length

def send (c : Channel α) (m : α) : Channel α :=
  let kept := c.kept ++ [m]
  { c with sent := c.sent + 1, kept := kept.drop (kept.length - c.size) }

/-- A new receiver reads what is sent from now on. -/
def subscribe (c : Channel α) : Receiver := ⟨c.sent⟩

/-- What the receiver finds, and where it stands then. -/
def receive (c : Channel α) (r : Receiver) : Found α × Receiver :=
  if r.next < c.oldest then (.lagged (c.oldest - r.next), ⟨c.oldest⟩)
  else match c.kept[r.next - c.oldest]? with
    | some m => (.message m, ⟨r.next + 1⟩)
    | none => (.nothing, r)

/-- How many steps bring the receiver to the end of the channel. -/
def remaining (c : Channel α) (r : Receiver) : Nat := c.kept.length + (c.oldest - r.next) + 1

/-- Reads on, past a lag, to the first message of interest. -/
def receiveNext (c : Channel α) (wanted : α → Bool) : (fuel : Nat) → Receiver →
    Option α × Receiver
  | 0, r => (none, r)
  | fuel + 1, r =>
    match c.receive r with
    | (.message m, r) => if wanted m then (some m, r) else c.receiveNext wanted fuel r
    | (.lagged _, r) => c.receiveNext wanted fuel r
    | (.nothing, r) => (none, r)

/-- Reads on to the first message of interest, but stops at a lag. -/
def tryReceive (c : Channel α) (wanted : α → Bool) : (fuel : Nat) → Receiver →
    Option α × Receiver
  | 0, r => (none, r)
  | fuel + 1, r =>
    match c.receive r with
    | (.message m, r) => if wanted m then (some m, r) else c.tryReceive wanted fuel r
    | (.lagged _, r) => (none, r)
    | (.nothing, r) => (none, r)

end Channel

end FieldGateway.Bus
