import FieldGateway.Command.Reply
import FieldGateway.Service.Health

/-
  Reading: from a command to an event. The driver is asked once for the whole command; its
  results are then cooked, each through the mask, the transforms, and the mappings of its step.
-/

namespace FieldGateway

/-! ## Cooking -/

/-- What cooking needs besides results: settings, and who and when for the event. -/
structure Kitchen where
  dataTransform : Bool
  maxEventSize : Option Nat
  transforms : TransformEngine
  /-- The number of the first identifier. -/
  number : Nat
  time : Int64
  /-- In which order the tags of the event and of its readings are written. -/
  listings : Listings

namespace Kitchen

/-- The value that is shown for a result. A mask has no effect on what is no whole number. -/
def shown (k : Kitchen) (step : Step) (result : Result) : Except CommandError Value := do
  let masked := match step.request.mask with
    | some m => (m.readValue result.value).getD result.value
    | none => result.value
  let presented ←
    if k.dataTransform then
      match k.transforms.outgoing step.properties masked with
      | .ok v => .ok v
      | .error e => .error (.readingTransform step.request.resource e.message)
    else .ok masked
  return Transform.mapReading step.mappings presented

/-- The readings of the steps, under identifiers from a number on. -/
def readings (k : Kitchen) (device profile : String) :
    (number : Nat) → List (Step × Result) → Except CommandError (List Reading)
  | _, [] => .ok []
  | number, (step, result) :: rest => do
    let value ← k.shown step result
    let reading := Reading.ofValue (Text.identifier number) device profile step.request.resource
      value (result.origin.getD k.time) step.properties result.tags
    return reading :: (← readings k device profile (number + 1) rest)

def event (k : Kitchen) (device : String) (c : Command) (results : List Result) :
    Except CommandError Event := do
  let readings ← k.readings device c.profileName (k.number + 1) (c.steps.zip results)
  return { id := Text.identifier k.number, device, profile := c.profileName, source := c.name,
           origin := k.time, readings, tags := ∅ }

/-- The event, unless its payload is larger than events may be. -/
def cook (k : Kitchen) (device : String) (c : Command) (results : List Result) :
    Except CommandError CookedEvent := do
  let cooked := CookedEvent.encode (← k.event device c results) k.listings
  match k.maxEventSize with
  | some max => if max < cooked.size then .error (.eventTooLarge cooked.size max) else .ok cooked
  | none => .ok cooked

end Kitchen

namespace Service

variable {σ : Type}

def kitchen (s : Service σ) : Kitchen where
  dataTransform := s.controller.config.dataTransform
  maxEventSize := s.controller.config.maxEventSize?
  transforms := s.controller.transforms
  number := s.site.issued
  time := s.site.nanos
  listings place := s.controller.tagListings (s.site.issued + place)

/-- Cooks at this moment. -/
def cook (d : Device) (c : Command) (results : List Result) :
    Action σ (Except CommandError CookedEvent) := do
  let kitchen := (← get).kitchen
  changeSite fun site => { site with issued := site.issued + results.length + 1 }
  return kitchen.cook d.name c results

/-- One more event was sent. -/
def countEvent (readings : Nat) : Action σ Unit :=
  changeController fun c => { c with metrics :=
    { c.metrics with eventsSent := c.metrics.eventsSent + 1,
                     readingsSent := c.metrics.readingsSent + readings } }

/-- Publishes an event, and counts it if it goes to the bus. -/
def publish (e : CookedEvent) : Action σ Unit := do
  let c := (← get).controller
  match c.publisher with
  | .bus =>
    announce c.config.serviceName (Announcement.ofCooked e)
    countEvent e.readingCount
  | .own => changeSite (·.note (.handedOver e.event.source e.readingCount))

/-! ## Asking the driver -/

/-- The answer was no answer to what was asked: the device is down. -/
def violated (d : Device) (reason : String) : Action σ CommandError := do
  forceDown d reason
  return .driverViolation d.name reason

/-- The driver reported an error. -/
def driverFailed (d : Device) : DriverError → Action σ CommandError
  | .assertionFailed reason => violated d reason
  | e => do
    reportFailure d e.message
    return .driverFailure d.name e.message

/-- The metadata service learns that a device answered, where that is wanted. -/
def touch (d : Device) : Action σ Unit := do
  if (← get).controller.config.updateLastConnected then report (.connectionReported d.name)

variable (driver : Driver σ)

def address (d : Device) : Action σ (Except CommandError Address) := do
  match ← onSite (Site.address driver d) with
  | .ok a => return .ok a
  | .error e =>
    reportFailure d e.message
    return .error (.addressResolution d.name e.message)

/-- One more reading was done. -/
def countRead : Action σ Unit :=
  changeController fun c =>
    { c with metrics := { c.metrics with readCommands := c.metrics.readCommands + 1 } }

/-- The results of a command, one for each of its steps. -/
def readRaw (d : Device) (c : Command) : Action σ (Except CommandError (List Result)) := do
  match ← address driver d with
  | .error e => return .error e
  | .ok a =>
    match ← onSite (Site.read driver d a c.requests) with
    | .error e => return .error (← driverFailed d e)
    | .ok results =>
      if results.length = c.size then
        reportSuccess d
        countRead
        touch d
        return .ok results
      else
        return .error (← violated d
          (Text.natText results.length ++ " results for " ++ Text.natText c.size ++ " requests"))

/-- The results of a command, and the event they make. -/
def read (d : Device) (c : Command) :
    Action σ (Except CommandError (List Result × CookedEvent)) := do
  match ← readRaw driver d c with
  | .error e => return .error e
  | .ok results => return (← cook d c results).map fun event => (results, event)

end Service

end FieldGateway
