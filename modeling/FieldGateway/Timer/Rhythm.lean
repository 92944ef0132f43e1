import FieldGateway.Duration

/-
  When a timer falls due. Instants are nanoseconds of a clock that starts at zero; timers fire on
  whole milliseconds, the first that is not before the due time.
-/

namespace FieldGateway.Timer

def nanosPerMilli : Nat := 1000000

/-- The first whole millisecond that is not before an instant. -/
def milliOf (instant : Nat) : Nat := (instant + (nanosPerMilli - 1)) / nanosPerMilli

/-- No wait lasts longer than thirty years of 365 days. It is the sleep of the runtime that ends
then; the timers that ask for it have no such cap of their own. -/
def longestWait : Duration := Duration.ofSeconds (30 * 365 * 86400)

/-- How long a wait of a given length lasts, in nanoseconds. -/
def wait (length : Duration) : Nat := min length.nanos longestWait.nanos

/-- How long a wait of so many milliseconds lasts, in milliseconds. -/
def waitMillis (millis : Nat) : Nat := min millis longestWait.millis

/-- How the fires of a timer follow one another. -/
inductive Rhythm where
  /-- At regular times. -/
  | periodic (period : Duration)
  /-- So long after the last attempt ended. -/
  | retrying (delay : Duration)
deriving DecidableEq, Repr

namespace Rhythm

/-- A regular timer that fires later than this gives up its old times. -/
def tolerance : Nat := 5 * nanosPerMilli

/-- When a timer first falls due that is set at an instant. The first regular time is kept,
however far off it is. -/
def first : Rhythm → (now : Nat) → Nat
  | periodic d, now => now + d.nanos
  | retrying d, now => now + wait d

/-- When a timer falls due again that was due, fired, and ended its work at these instants. -/
def next : Rhythm → (due fired ended : Nat) → Nat
  | periodic d, due, fired, _ => (if due + tolerance < fired then fired else due) + wait d
  | retrying d, _, _, ended => ended + wait d

end Rhythm

end FieldGateway.Timer
