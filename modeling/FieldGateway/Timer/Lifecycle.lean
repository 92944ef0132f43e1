/-
  The life of a timer. It is armed while it waits, firing while its work runs, and retired once
  it never fires again. Whoever retires a timer marks it first and then wakes its wait; between
  the two the mark alone keeps the timer from firing.
-/

namespace FieldGateway.Timer

inductive Phase where
  | armed
  | firing
  | retired
deriving DecidableEq, Repr

def Phase.name : Phase → String
  | armed => "Armed"
  | firing => "Firing"
  | retired => "Retired"

/-- What the work of a timer asks for when it is done. -/
inductive Control where
  | again
  | retire
deriving DecidableEq, Repr

structure Lifecycle where
  phase : Phase := .armed
  /-- The wait was told to end. -/
  cancelled : Bool := false
deriving DecidableEq, Repr

namespace Lifecycle

def isRetired (l : Lifecycle) : Bool := l.phase == .retired

/-- Armed to firing; refused in any other phase. -/
def beginFire (l : Lifecycle) : Bool × Lifecycle :=
  if l.phase = .armed then (true, { l with phase := .firing }) else (false, l)

/-- Firing to armed; refused in any other phase. -/
def rearm (l : Lifecycle) : Bool × Lifecycle :=
  if l.phase = .firing then (true, { l with phase := .armed }) else (false, l)

/-- The first half of retiring. -/
def mark (l : Lifecycle) : Lifecycle := { l with phase := .retired }

/-- The second half of retiring. -/
def cancel (l : Lifecycle) : Lifecycle := { l with cancelled := true }

def retire (l : Lifecycle) : Lifecycle := l.mark.cancel

/-- What the work asked for, and whether the timer waits again. -/
def settle (l : Lifecycle) : Control → Bool × Lifecycle
  | .again => l.rearm
  | .retire => (false, l.retire)

/-- What may be asked of a lifecycle. -/
inductive Call where
  | beginFire
  | rearm
  | retire
  | isRetired
  | phase
deriving DecidableEq, Repr

inductive Answer where
  | nothing
  | flag (b : Bool)
  | phase (p : Phase)
deriving DecidableEq, Repr

def call (l : Lifecycle) : Call → Answer × Lifecycle
  | .beginFire => (.flag l.beginFire.1, l.beginFire.2)
  | .rearm => (.flag l.rearm.1, l.rearm.2)
  | .retire => (.nothing, l.retire)
  | .isRetired => (.flag l.isRetired, l)
  | .phase => (.phase l.phase, l)

end Lifecycle

end FieldGateway.Timer
