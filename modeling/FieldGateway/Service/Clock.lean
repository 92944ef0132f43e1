import FieldGateway.Service.Management

/-
  The passing of time: timers fire in the order of their waits, and the clock stands at the
  millisecond of each while it fires.
-/

namespace FieldGateway

open Timer (Control)

/-- Does what falls due up to a time, one thing after the other. -/
def runDue {w : Type} (due? : w → Option Nat) (fire : w → w) (limit : Nat) : (fuel : Nat) → w → w
  | 0, x => x
  | fuel + 1, x =>
    match due? x with
    | some t => if t ≤ limit then runDue due? fire limit fuel (fire x) else x
    | none => x

namespace Controller

/-- The one of two timers that fires first. -/
def earlier (a b : Option (Timer.Waiting × Nat)) : Option (Timer.Waiting × Nat) :=
  match a, b with
  | some a, some b => if b.1.before a.1 then some b else some a
  | some a, none => some a
  | none, b => b

/-- The wait of the timer that fires next, and its number. -/
def nextTimer? (c : Controller) : Option (Timer.Waiting × Nat) :=
  c.timers.toList.zipIdx.foldl
    (fun found t =>
      if t.1.lifecycle.phase = .armed then earlier found (some (t.1.waiting, t.2)) else found)
    none

/-- More timers than can be live at once: those set so far, and a probe for each device. -/
def liveBound (c : Controller) (devices : Nat) : Nat := c.timers.next + devices + 1

end Controller

namespace Service

variable {σ : Type} (driver : Driver σ)

def run : Task → Action σ Control
  | .probe device => probe driver device
  | .sample number => sample driver number
  | .counters => announceCounters

def changeLifecycle (number : Nat) (l : Timer.Lifecycle) : Action σ Unit :=
  changeController fun c =>
    { c with timers := c.timers.modify number fun t => { t with lifecycle := l } }

/-- The work of a timer is done: it waits again, if it asks for that and was not retired. -/
def settleTimer (number : Nat) (fired : Nat) (control : Control) : Action σ Unit := do
  let s ← get
  match s.controller.timers.get? number with
  | none => return
  | some t =>
    let (again, lifecycle) := t.lifecycle.settle control
    let instant := s.site.now * Timer.nanosPerMilli
    let due := t.rhythm.next t.waiting.due fired instant
    let waiting := if again then t.waiting.again due s.site.now s.site.waits else t.waiting
    changeSite fun site => { site with waits := site.waits + 1 }
    changeController fun c =>
      { c with timers := c.timers.modify number fun t => { t with lifecycle, waiting } }

/-- Fires a timer, if it is armed. -/
def fireTimer (number : Nat) : Action σ Unit := do
  let s ← get
  match s.controller.timers.get? number with
  | none => return
  | some t =>
    let (begun, lifecycle) := t.lifecycle.beginFire
    if begun then
      changeLifecycle number lifecycle
      let control ← run driver t.task
      settleTimer number (s.site.now * Timer.nanosPerMilli) control

/-- Brings the clock to a time, but never back. -/
def clockTo (millis : Nat) : Action σ Unit :=
  changeSite fun site => { site with now := max site.now millis }

/-- The millisecond at which the next timer fires. -/
def nextFire? (s : Service σ) : Option Nat :=
  s.controller.nextTimer?.map fun t => t.1.millis

/-- Fires the next timer, in its time. -/
def fireNext (s : Service σ) : Service σ :=
  match s.controller.nextTimer? with
  | none => s
  | some (waiting, number) =>
    ((do clockTo waiting.millis; fireTimer driver number : Action σ Unit).run s).2

/-- A timer fires at most once in a nanosecond. -/
def fuel (s : Service σ) (millis : Nat) : Nat :=
  (millis * Timer.nanosPerMilli + 1) * s.controller.liveBound s.site.registry.devices.size

/-- So many milliseconds pass, with all that falls due meanwhile, the last one included. -/
def advance (millis : Nat) (s : Service σ) : Service σ :=
  let limit := s.site.now + millis
  let s := runDue nextFire? (fireNext driver) limit (s.fuel millis) s
  ((clockTo limit : Action σ Unit).run s).2

/-! ## Two controllers at one site -/

/-- A step of another controller at the site of a service. -/
def lend {α : Type} (s : Service σ) (other : Controller) (step : Action σ α) :
    α × Service σ × Controller :=
  let (x, after) := step.run ⟨s.site, other⟩
  (x, ⟨after.site, s.controller⟩, after.controller)

/-- The other controller fires its next timer. -/
def fireNextOf (s : Service σ) (other : Controller) : Service σ × Controller :=
  let after := fireNext driver ⟨s.site, other⟩
  (⟨after.site, s.controller⟩, after.controller)

/-- The millisecond at which the next timer of either controller fires. -/
def nextFireShared? (p : Service σ × Controller) : Option Nat :=
  (Controller.earlier p.1.controller.nextTimer? p.2.nextTimer?).map fun t => t.1.millis

/-- Fires the next timer of either controller. -/
def fireNextShared (p : Service σ × Controller) : Service σ × Controller :=
  match p.1.controller.nextTimer?, p.2.nextTimer? with
  | some a, some b => if b.1.before a.1 then fireNextOf driver p.1 p.2 else (fireNext driver p.1, p.2)
  | none, some _ => fireNextOf driver p.1 p.2
  | _, none => (fireNext driver p.1, p.2)

/-- So many milliseconds pass for a service and another controller at its site. -/
def advanceShared (millis : Nat) (s : Service σ) (other : Controller) : Service σ × Controller :=
  let limit := s.site.now + millis
  let fuel := s.fuel millis + fuel ⟨s.site, other⟩ millis
  let p := runDue nextFireShared? (fireNextShared driver) limit fuel (s, other)
  (((clockTo limit : Action σ Unit).run p.1).2, p.2)

end Service

end FieldGateway
