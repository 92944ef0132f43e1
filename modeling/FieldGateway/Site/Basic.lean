import FieldGateway.Numbered
import FieldGateway.Site.Trace
import FieldGateway.Text.Identifier
import FieldGateway.Timer.Rhythm

/-
  A site: a registry of devices, the driver's state, the bus, and a clock. What changes about a
  device while it is registered is its condition, kept under the serial of the incarnation; so
  whoever still holds an old incarnation finds its condition and no other.
-/

namespace FieldGateway

open FieldGateway.Text

/-- What changes about an incarnation of a device. -/
structure Condition where
  admin : AdminState := .unlocked
  operating : OperatingState := .up
  /-- Failures in hand before the device counts as down. -/
  remainingFails : Nat := 0
  /-- The address, once the driver has made one. -/
  address : Option Address := none

/-- The condition after a report. So many failures are allowed for, and where none are, none are
counted. A device stays down until it answers. -/
def Condition.following (c : Condition) (allowed : Nat) : Report → Condition
  | .success => { c with operating := .up, remainingFails := allowed }
  | .failure =>
    if allowed = 0 then c
    else
      let remaining := c.remainingFails - 1
      { c with remainingFails := remaining,
               operating := if remaining = 0 then .down else c.operating }
  | .violation => { c with operating := .down }

structure Site (σ : Type) where
  /-- Milliseconds since the site was set up. -/
  now : Nat := 0
  /-- The time of day, in nanoseconds since the epoch. Timers go by `now` alone. -/
  timeOfDay : Nat
  /-- How many waits of timers began. -/
  waits : Nat := 0
  /-- How many identifiers were given out. -/
  issued : Nat := 0
  driverState : σ
  registry : Registry := {}
  /-- By the serial of a device. -/
  conditions : Numbered Condition := ∅
  /-- By the serial of a profile: its commands, once they were asked for. -/
  indexes : Numbered (Option Index) := ∅
  bus : Bus
  /-- What was seen from outside and when, the latest first. -/
  trace : List (Nat × Effect) := []

namespace Site

variable {σ : Type}

/-! ## Clock and trace -/

/-- The time of day in nanoseconds, zero if a word cannot hold it. -/
def nanos (s : Site σ) : Int64 :=
  if (s.timeOfDay : Int) ≤ Word.greatestSigned 64 then Int64.ofNat s.timeOfDay else 0

/-- The time of day in seconds. -/
def seconds (s : Site σ) : Int64 := Int64.ofNat (s.timeOfDay / Duration.perSecond)

def note (e : Effect) (s : Site σ) : Site σ := { s with trace := (s.now, e) :: s.trace }

/-- Puts an announcement on the bus. -/
def announce (source : String) (a : Announcement) (s : Site σ) : Site σ :=
  { s with
    issued := s.issued + 1
    bus := (s.bus.publish ⟨a, ⟨identifier s.issued, none, source, s.seconds⟩⟩).2 }.note
    (.announced source a)

/-! ## Conditions -/

def condition (s : Site σ) (d : Device) : Condition := (s.conditions.get? d.serial).getD {}

def setCondition (d : Device) (c : Condition) (s : Site σ) : Site σ :=
  { s with conditions := s.conditions.modify d.serial fun _ => c }

def isLocked (s : Site σ) (d : Device) : Bool := (s.condition d).admin == .locked

def isDown (s : Site σ) (d : Device) : Bool := (s.condition d).operating == .down

/-! ## The driver -/

variable (driver : Driver σ)

/-- The commands of a profile, made on first use and kept, whatever the driver made of the
attributes. -/
def index (r : Registration) (s : Site σ) : Index × Site σ :=
  match (s.indexes.get? r.serial).join with
  | some i => (i, s)
  | none =>
    let parse (resource : String) (attributes : Json) : Option Json :=
      (driver.parseAttributes s.driverState resource attributes).toOption
    let i := Index.build parse r.profile
    (i, i.parsed.foldl (fun s resource => s.note (.driver (.parse r resource)))
      { s with indexes := s.indexes.modify r.serial fun _ => some i })

def createAddress (d : Device) (s : Site σ) : Except DriverError Address × Site σ :=
  let (outcome, state) := driver.createAddress s.driverState d.name d.protocols
  (outcome, { s with driverState := state }.note (.driver (.address d outcome)))

/-- The address of a device, made on first use; one that could not be made is tried again. -/
def address (d : Device) (s : Site σ) : Except DriverError Address × Site σ :=
  match (s.condition d).address with
  | some a => (.ok a, s)
  | none =>
    match createAddress driver d s with
    | (.ok a, s) => (.ok a, s.setCondition d { s.condition d with address := some a })
    | (.error e, s) => (.error e, s)

def read (d : Device) (a : Address) (requests : List Request) (s : Site σ) :
    Except DriverError (List Result) × Site σ :=
  let (outcome, state) := driver.read s.driverState d.name a requests
  (outcome, { s with driverState := state }.note (.driver (.read d a requests outcome)))

def write (d : Device) (a : Address) (requests : List Request) (values : List Value)
    (s : Site σ) : Except DriverError Unit × Site σ :=
  let (outcome, state) := driver.write s.driverState d.name a requests values
  (outcome, { s with driverState := state }.note (.driver (.write d a requests values outcome)))

def prepare (s : Site σ) : Except DriverError Unit × Site σ :=
  let (outcome, state) := driver.prepare s.driverState
  (outcome, { s with driverState := state }.note (.driver (.prepare outcome)))

def shutDown (force : Bool) (s : Site σ) : Site σ :=
  { s with driverState := driver.stop s.driverState force }.note (.driver (.stop force))

def noteAdded (d : Device) (s : Site σ) : Site σ :=
  { s with driverState := driver.added s.driverState d.name d.protocols }.note
    (.driver (.added d))

def noteUpdated (d : Device) (s : Site σ) : Site σ :=
  { s with driverState := driver.updated s.driverState d.name d.protocols }.note
    (.driver (.updated d))

def noteRemoved (name : String) (s : Site σ) : Site σ :=
  { s with driverState := driver.removed s.driverState name }.note (.driver (.removed name))

def startSampling (sampling : Driver.Sampling σ) (d : Device) (source : String)
    (requests : List Request) (interval : Duration) (onChange : Bool) (s : Site σ) :
    Except DriverError Handle × Site σ :=
  let (outcome, state) :=
    sampling.start s.driverState d.name d.protocols source requests interval onChange
  (outcome, { s with driverState := state }.note
    (.driver (.startSampling d source requests interval onChange outcome)))

def stopSampling (sampling : Driver.Sampling σ) (handle : Handle) (s : Site σ) : Site σ :=
  { s with driverState := sampling.stop s.driverState handle }.note
    (.driver (.stopSampling handle))

end Site

end FieldGateway
