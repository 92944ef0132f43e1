import FieldGateway.Service.Basic

/-
  The health of devices. Each device has so many failures in hand; a failure takes one, a success
  gives all of them back, and the last one taken brings the device down, which keeps commands
  from it. While a device is down a probe reads it from time to time until it answers.

  Successes and failures are reported on the incarnation that the work began with, which need not
  be the one that is registered when the work ends.
-/

namespace FieldGateway.Service

open Timer (Control)

variable {σ : Type}

/-- The source under which the health of devices is announced. -/
def healthSource : String := "system"

/-! ## Probes -/

/-- A recovery probe of the device may still fire. -/
def hasProbe (s : Service σ) (name : String) : Bool :=
  (s.controller.probes.find? name).any s.isLive

def armProbe (name : String) : Action σ Unit := do
  let s ← get
  match s.controller.config.downTimeout? with
  | none => return
  | some delay =>
    if s.hasProbe name then return
    else
      let number ← setTimer (.retrying delay) (.probe name)
      changeController fun c => { c with probes := c.probes.insert name number }

def forgetProbe (name : String) : Action σ Unit :=
  changeController fun c => { c with probes := c.probes.erase name }

def cancelProbe (name : String) : Action σ Unit := do
  match (← get).controller.probes.find? name with
  | none => return
  | some number =>
    forgetProbe name
    retireTimer number

def cancelAllProbes : Action σ Unit := do
  (← get).controller.probes.values.forM retireTimer
  changeController fun c => { c with probes := ∅ }

/-! ## Reports -/

/-- Enters a report. The answer is how the device was before, and how it is now. -/
def enter (d : Device) (r : Report) : Action σ (OperatingState × OperatingState) := do
  let s ← get
  let before := s.site.condition d
  let after := before.following s.controller.config.allowedFails r
  changeSite fun site => (site.setCondition d after).note (.reported d r)
  return (before.operating, after.operating)

/-- The device answered as it should. -/
def reportSuccess (d : Device) : Action σ Unit := do
  if (← enter d .success).1 = .down then
    cancelProbe d.name
    announce healthSource (.deviceUp d.name)
    report (.stateReported d.name .up)

/-- What follows when a device went down. -/
def wentDown (d : Device) (reason : String) : Action σ Unit := do
  announce healthSource (.deviceDown d.name (some reason))
  report (.stateReported d.name .down)
  armProbe d.name

/-- The device did not answer. -/
def reportFailure (d : Device) (reason : String) : Action σ Unit := do
  if (← enter d .failure) = (.up, .down) then wentDown d reason

/-- The device is down, whatever failures it has in hand. -/
def forceDown (d : Device) (reason : String) : Action σ Unit := do
  if (← enter d .violation) = (.up, .down) then wentDown d reason

/-! ## Probing -/

variable (driver : Driver σ)

/-- The answer of a device to a reading, its address being made first if need be. -/
def ask (d : Device) (requests : List Request) : Action σ (Except DriverError (List Result)) := do
  match ← onSite (Site.address driver d) with
  | .error e => return .error e
  | .ok address => onSite (Site.read driver d address requests)

/-- What a probe has to read; nothing when there is nothing to find out. -/
def beginProbe (name : String) : Action σ (Option (Device × Command)) := do
  let s ← get
  match s.device? name with
  | none =>
    forgetProbe name
    return none
  | some d =>
    if s.site.isDown d then
      let index ← onSite (Site.index driver d.registration)
      return index.probe?.map fun c => (d, c)
    else return none

/-- What a probe makes of the answer: any answer counts, a failure is no failure in hand. -/
def endProbe (d : Device) (answer : Except DriverError (List Result)) : Action σ Control := do
  match answer with
  | .ok _ =>
    reportSuccess d
    return .retire
  | .error _ => return .again

def probe (name : String) : Action σ Control := do
  match ← beginProbe driver name with
  | none => return .retire
  | some (d, c) => endProbe d (← ask driver d c.requests)

end FieldGateway.Service
