import FieldGateway.Config.Basic
import FieldGateway.Site.Basic
import FieldGateway.Timer.Lifecycle
import FieldGateway.Timer.Waiting

/-
  A service: a site and the controller that works on it. The controller holds the settings, the
  counters, the timers, and what they run for: recovery probes, samplers, the announcement of the
  counters. Controllers that share a site see each other through the registry, the conditions of
  the devices, and the bus alone.
-/

namespace FieldGateway

open Timer (Rhythm Lifecycle)

/-- Where events go. -/
inductive Publisher where
  /-- To the bus, counted. -/
  | bus
  /-- To a publisher of one's own, not counted. -/
  | own
deriving DecidableEq, Repr

/-- What runs the readings of a sampler. -/
inductive Schedule where
  | timer (number : Nat)
  /-- The driver, under a name of its own. -/
  | driver (handle : Handle)
deriving DecidableEq, Repr

/-- A command of a device that is read again and again. -/
structure Sampler where
  device : String
  source : String
  interval : Duration
  onChange : Bool
  /-- The last results that differed from those before them. -/
  snapshot : Option (List Result) := none
  schedule : Option Schedule := none

/-- The sampler that an auto-event asks for. -/
def Sampler.matches (r : Sampler) (a : AutoEvent) (interval : Duration) : Bool :=
  r.source == a.source && r.interval == interval && r.onChange == a.onChange

/-- The results are not the same values again. -/
def Sampler.isChange (r : Sampler) (results : List Result) : Bool :=
  match r.snapshot with
  | some previous => !sameValues previous results
  | none => true

/-- What a timer runs. -/
inductive Task where
  /-- Finds out whether a device that is down answers again. -/
  | probe (device : String)
  /-- Reads for the sampler of this number. -/
  | sample (sampler : Nat)
  /-- Announces the counters. -/
  | counters
deriving DecidableEq, Repr

structure Timer where
  rhythm : Rhythm
  task : Task
  waiting : Timer.Waiting
  lifecycle : Lifecycle := {}
deriving DecidableEq, Repr

structure Controller where
  config : ServiceConfig
  transforms : TransformEngine := Transform.standard
  /-- By the number of an event or a reading: in which order its tags are written. -/
  tagListings : Listings := Listings.sorted
  /-- In which order the mappings of a step are searched. -/
  mappingListing : (step : Step) → step.mappings.Listing := fun step => .sorted step.mappings
  publisher : Publisher := .bus
  /-- The metadata service is told of devices that go down, come up, or answer. -/
  reportsMetadata : Bool := false
  /-- Operators locked the service as a whole. -/
  locked : Bool := false
  running : Bool := false
  metrics : Metrics := {}
  timers : Numbered Timer := ∅
  /-- By device: the timer of its recovery probe. -/
  probes : Dict Nat := ∅
  samplers : Numbered Sampler := ∅
  /-- By device: the samplers that read it, in the order of its configuration. -/
  sampling : Dict (List Nat) := ∅
  /-- The timer of the counters. -/
  countersTimer : Option Nat := none

structure Service (σ : Type) where
  site : Site σ
  controller : Controller

/-- A step of a service. -/
abbrev Action (σ : Type) := StateM (Service σ)

namespace Service

variable {σ : Type}

/-- A service over a site of its own, with a bus named for the service. -/
def ofConfig (config : ServiceConfig) (timeOfDay : Nat) (driverState : σ) : Service σ where
  site :=
    { timeOfDay, driverState,
      bus := { Bus.ofCapacity config.busCapacity with name := config.serviceName } }
  controller := { config }

/-- A step of the site. -/
def onSite {α : Type} (step : Site σ → α × Site σ) : Action σ α := fun s =>
  let (x, site) := step s.site
  (x, { s with site })

def changeSite (f : Site σ → Site σ) : Action σ Unit :=
  modify fun s => { s with site := f s.site }

def changeController (f : Controller → Controller) : Action σ Unit :=
  modify fun s => { s with controller := f s.controller }

def device? (s : Service σ) (name : String) : Option Device := s.site.registry.device? name

/-- Announces what happened at this second. -/
def announce (source : String) (a : Int64 → Announcement) : Action σ Unit :=
  changeSite fun site => site.announce source (a site.seconds)

/-- Reports to the metadata service, if there is one. -/
def report (e : Effect) : Action σ Unit := do
  if (← get).controller.reportsMetadata then changeSite (·.note e)

/-! ## Timers -/

/-- Sets a timer; the answer is its number. -/
def setTimer (rhythm : Rhythm) (task : Task) : Action σ Nat := do
  let s ← get
  let due := rhythm.first (s.site.now * Timer.nanosPerMilli)
  let waiting := ⟨due, s.site.now, true, s.site.waits⟩
  changeSite fun site => { site with waits := site.waits + 1 }
  changeController fun c => { c with timers := c.timers.add { rhythm, task, waiting } }
  return s.controller.timers.next

def retireTimer (number : Nat) : Action σ Unit :=
  changeController fun c =>
    { c with timers := c.timers.modify number fun t => { t with lifecycle := t.lifecycle.retire } }

/-- The timer may still fire. -/
def isLive (s : Service σ) (number : Nat) : Bool :=
  (s.controller.timers.get? number).any fun t => !t.lifecycle.isRetired

end Service

end FieldGateway
