import FieldGateway.Service.Commands

/-
  Sampling: commands that are read at an interval without being asked for. Each auto-event of a
  device gets a sampler, and each sampler a schedule, a timer or one of the driver's own. When the
  sampling of a device starts again, a sampler that still fits an auto-event is taken over with
  its snapshot, so what did not change meanwhile is not published again.
-/

namespace FieldGateway.Service

open Timer (Control)

variable {σ : Type} (driver : Driver σ)

/-! ## Schedules -/

def changeSampler (number : Nat) (f : Sampler → Sampler) : Action σ Unit :=
  changeController fun c => { c with samplers := c.samplers.modify number f }

/-- The schedule of a sampler, taken from it. -/
def takeSchedule (number : Nat) : Action σ (Option Schedule) := do
  let sampler := (← get).controller.samplers.get? number
  changeSampler number fun r => { r with schedule := none }
  return sampler.bind (·.schedule)

def stopSampler (number : Nat) : Action σ Unit := do
  match ← takeSchedule number with
  | some (.timer timer) => retireTimer timer
  | some (.driver handle) =>
    match driver.sampling with
    | some sampling => changeSite (Site.stopSampling sampling handle)
    | none => return
  | none => return

/-- Puts a sampler on a schedule. A driver that samples on its own may refuse. -/
def launch (d : Device) (c : Command) (number : Nat) (r : Sampler) : Action σ Unit := do
  match driver.sampling with
  | some sampling =>
    match ← onSite (Site.startSampling sampling d r.source c.requests r.interval r.onChange) with
    | .ok handle => changeSampler number fun r => { r with schedule := some (.driver handle) }
    | .error _ => return
  | none =>
    let timer ← setTimer (.periodic r.interval) (.sample number)
    changeSampler number fun r => { r with schedule := some (.timer timer) }

/-- A sampler that runs. -/
def isRunning (s : Service σ) (r : Sampler) : Bool :=
  match r.schedule with
  | some (.timer timer) => s.isLive timer
  | some (.driver _) => true
  | none => false

/-! ## Starting and stopping -/

/-- The samplers of a device, by number. -/
def samplersOf (s : Service σ) (device : String) : List Nat :=
  (s.controller.sampling.find? device).getD []

/-- The samplers of a device, which has none then. -/
def takeSamplers (device : String) : Action σ (List Nat) := do
  let numbers := (← get).samplersOf device
  changeController fun c => { c with sampling := c.sampling.erase device }
  return numbers

/-- The first of these samplers that fits an auto-event. -/
def fitting? (s : Service σ) (previous : List Nat) (a : AutoEvent) (interval : Duration) :
    Option Nat :=
  previous.find? fun number => (s.controller.samplers.get? number).any (·.matches a interval)

/-- A new sampler for an auto-event; the answer is its number. -/
def addSampler (device : String) (a : AutoEvent) (interval : Duration) : Action σ Nat := do
  let number := (← get).controller.samplers.next
  let r : Sampler := { device, source := a.source, interval, onChange := a.onChange }
  changeController fun c => { c with samplers := c.samplers.add r }
  return number

/-- The command that a sampler of that source reads, if all of it can be read. -/
def readable? (d : Device) (source : String) : Action σ (Option Command) := do
  let index ← onSite (Site.index driver d.registration)
  return (index.resolve? source .get).filter fun c => c.unreadable?.isNone

/-- Launches the sampler of a number; the answer is the number. -/
def launched (d : Device) (c : Command) (number : Nat) : Action σ (Option Nat) := do
  match (← get).controller.samplers.get? number with
  | some r => launch driver d c number r
  | none => pure ()
  return some number

/-- The sampler of an auto-event, taken over or new, on its schedule; nothing if the interval or
the source is of no use. -/
def startSampler (d : Device) (previous : List Nat) (a : AutoEvent) : Action σ (Option Nat) := do
  match Duration.interval? a.interval with
  | none => return none
  | some interval =>
    match ← readable? driver d a.source with
    | none => return none
    | some c =>
      let number ← match (← get).fitting? previous a interval with
        | some number => pure number
        | none => addSampler d.name a interval
      launched driver d c number

def startSamplers (d : Device) (previous : List Nat) : List AutoEvent → Action σ (List Nat)
  | [] => return []
  | a :: rest => do
    let first ← startSampler driver d previous a
    let others ← startSamplers d previous rest
    return first.toList ++ others

/-- Starts the sampling of a device, all over if it was running. -/
def startAutoEvents (device : String) : Action σ Unit := do
  match (← get).device? device with
  | none => return
  | some d =>
    let previous ← takeSamplers device
    previous.forM (stopSampler driver)
    let numbers ← startSamplers driver d previous d.autoEvents
    if numbers ≠ [] then
      changeController fun c => { c with sampling := c.sampling.insert device numbers }

def stopAutoEvents (device : String) : Action σ Unit := do
  (← takeSamplers device).forM (stopSampler driver)

/-- Stops the samplers of every device. The devices are taken in the order of their names, where
they may be taken in any other if they are kept in no order. -/
def stopAllAutoEvents : Action σ Unit := do
  (← get).controller.sampling.keys.forM (stopAutoEvents driver)

/-! ## Sampling -/

/-- Cooks and publishes results; an event that cannot be cooked is dropped. -/
def publishResults (d : Device) (c : Command) (results : List Result) : Action σ Unit := do
  match ← cook d c results with
  | .ok event => publish event
  | .error _ => return

/-- Reads for a sampler and publishes, unless only changes count and there is none. -/
def sampleNow (number : Nat) (r : Sampler) (d : Device) (c : Command) : Action σ Unit := do
  match ← readRaw driver d c with
  | .error _ => return
  | .ok results =>
    if r.onChange then
      if r.isChange results then
        changeSampler number fun r => { r with snapshot := some results }
        publishResults d c results
    else publishResults d c results

/-- What a sampler does when its time has come: it ends when the device or the command is gone,
and waits while they are locked or down. -/
def sample (number : Nat) : Action σ Control := do
  let s ← get
  match s.controller.samplers.get? number with
  | none => return .retire
  | some r =>
    match s.device? r.device with
    | none => return .retire
    | some d =>
      if s.controller.locked || s.site.isLocked d || s.site.isDown d then return .again
      else
        let index ← onSite (Site.index driver d.registration)
        match index.resolve? r.source .get with
        | none => return .retire
        | some c =>
          sampleNow driver number r d c
          return .again

end FieldGateway.Service
