import FieldGateway.Timer.Rhythm

/-
  Timers that wait. Of two timers that fire in the same millisecond the one goes first that began
  to wait first; of those that began at one time, the timers that wait again go before those that
  were set just then. A timer that is due again at once goes on before any other has its turn.
-/

namespace FieldGateway.Timer

structure Waiting where
  /-- When the timer falls due, in nanoseconds. -/
  due : Nat
  /-- When the wait began, in milliseconds. -/
  since : Nat
  /-- The timer was set just then. -/
  fresh : Bool
  /-- How many waits began before this one. -/
  number : Nat
deriving DecidableEq, Repr

namespace Waiting

/-- The millisecond at which the timer fires. -/
def millis (w : Waiting) : Nat := milliOf w.due

/-- What decides between timers, the weightiest first. -/
def rank (w : Waiting) : List Nat := [w.millis, w.since, w.fresh.toNat, w.number]

def before (v w : Waiting) : Bool := decide (v.rank < w.rank)

/-- The wait of a timer that fired at a millisecond and is due again. -/
def again (w : Waiting) (due now number : Nat) : Waiting :=
  if milliOf due ≤ now then { w with due } else ⟨due, now, false, number⟩

end Waiting

end FieldGateway.Timer
