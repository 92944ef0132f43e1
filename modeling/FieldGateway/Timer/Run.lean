import FieldGateway.Timer.Lifecycle
import FieldGateway.Timer.Rhythm

/-
  One timer run by a script: how long the work of each fire takes and what it asks for, and when
  the lifecycle is called from outside. Main definition: `Run.upTo`, everything that happens up
  to a time.
-/

namespace FieldGateway.Timer

/-- The work of one fire. -/
structure Work where
  millis : Nat := 0
  control : Control := .again
deriving DecidableEq, Repr

def Work.length (w : Work) : Duration := ⟨w.millis * nanosPerMilli⟩

/-- What the task behind a timer is doing. -/
inductive Activity where
  | waiting (due : Nat)
  /-- At work, due and fired at these instants, up to the end. -/
  | working (due fired ends : Nat) (work : Work)
  | ended
deriving DecidableEq, Repr

inductive Run.Entry where
  | fire
  | done
  /-- The lifecycle was called from outside. -/
  | called (call : Lifecycle.Call) (answer : Lifecycle.Answer)
deriving DecidableEq, Repr

structure Run where
  rhythm : Rhythm
  lifecycle : Lifecycle := {}
  activity : Activity
  /-- The work of the fires to come; when there is none left, a fire takes no time. -/
  script : List Work
  /-- What happened, the latest first, in milliseconds. -/
  log : List (Nat × Run.Entry) := []

namespace Run

/-- A timer set at time zero. Without a period there are no regular times, and nothing fires. -/
def start (rhythm : Rhythm) (script : List Work) : Run :=
  let activity := match rhythm with
    | .periodic ⟨0⟩ => .ended
    | r => .waiting (r.first 0)
  { rhythm, activity, script }

/-- The task ended its work: it waits again, if the lifecycle lets it. -/
def finish (r : Run) (due fired ends : Nat) (work : Work) : Run :=
  let (again, lifecycle) := r.lifecycle.settle work.control
  { r with
    lifecycle
    activity := if again then .waiting (r.rhythm.next due fired ends) else .ended }

/-- The wait ended at an instant: the work begins, if the lifecycle lets it. -/
def fire (r : Run) (due now : Nat) : Run :=
  let (begun, lifecycle) := r.lifecycle.beginFire
  if begun then
    let work := r.script.headD {}
    let r := { r with lifecycle, script := r.script.tail,
                      log := (now / nanosPerMilli, .fire) :: r.log }
    if work.millis = 0 then r.finish due now now work
    else { r with activity := .working due now (now + wait work.length) work }
  else { r with activity := .ended }

/-- The instant at which the task goes on by itself. -/
def nextInstant? (r : Run) : Option Nat :=
  match r.activity with
  | .waiting due => some due
  | .working _ _ ends _ => some ends
  | .ended => none

/-- The task goes on. A wait that falls due while the task was at work ends when it begins. -/
def step (r : Run) (now : Nat) : Run :=
  match r.activity with
  | .waiting due => r.fire due now
  | .working due fired ends work =>
    { r with log := (now / nanosPerMilli, .done) :: r.log }.finish due fired ends work
  | .ended => r

/-- Everything due up to an instant, from the present instant on. -/
def upTo (r : Run) (limit : Nat) : (fuel now : Nat) → Run
  | 0, _ => r
  | fuel + 1, now =>
    match r.nextInstant? with
    | none => r
    | some t => if t ≤ limit then (r.step (max now t)).upTo limit fuel (max now t) else r

/-- Everything due up to a time in milliseconds. A timer of at least a millisecond fires no more
often than there are milliseconds; one that retries at once goes on as the script says. -/
def advance (r : Run) (now limit : Nat) : Run :=
  r.upTo (limit * nanosPerMilli) (2 * (limit + r.script.length) + 4) (now * nanosPerMilli)

/-- A call from outside at a time in milliseconds. A wait ends when its timer is retired. -/
def call (r : Run) (now : Nat) (c : Lifecycle.Call) : Run :=
  let (answer, lifecycle) := r.lifecycle.call c
  { r with
    lifecycle
    activity :=
      match r.activity with
      | .waiting due => if lifecycle.cancelled then .ended else .waiting due
      | other => other
    log := (now, .called c answer) :: r.log }

end Run

end FieldGateway.Timer
