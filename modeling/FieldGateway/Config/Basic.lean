import FieldGateway.Bus.Basic
import FieldGateway.Duration
import FieldGateway.Text.Quoted

/-
  The configuration of a service: defaults, limits derived from the settings, and the check that
  a service can start with them.
-/

namespace FieldGateway

open FieldGateway.Text

structure ServiceConfig where
  /-- The name the service publishes under. -/
  serviceName : String := "edgekit-device-service"
  /-- Readings and writes are transformed. -/
  dataTransform : Bool := true
  /-- Zero sets no limit. -/
  maxEventSizeKib : Nat := 0
  /-- The operations one command may have; zero sets no limit. -/
  maxCommandOps : Nat := 128
  /-- Failures in a row that take a device down; zero never does. -/
  allowedFails : Nat := 0
  /-- Seconds between recovery probes; zero sends none. -/
  downTimeoutSecs : Nat := 0
  updateLastConnected : Bool := false
  busCapacity : Nat := Bus.defaultCapacity
  /-- How often the counters are announced; blank for never. -/
  metricsInterval : String := ""
deriving DecidableEq

namespace ServiceConfig

/-- The greatest size, for limits too large to count in bytes. -/
def greatestSize : Nat := Word.greatest 64

def maxEventSize? (c : ServiceConfig) : Option Nat :=
  if c.maxEventSizeKib = 0 then none else some (min (c.maxEventSizeKib * 1024) greatestSize)

def downTimeout? (c : ServiceConfig) : Option Duration :=
  if c.downTimeoutSecs = 0 then none else some (Duration.ofSeconds c.downTimeoutSecs)

/-- The interval between announcements of the counters, if it is a length above zero. -/
def metricsInterval? (c : ServiceConfig) : Option Duration := Duration.interval? c.metricsInterval

/-- What a service cannot start with. -/
inductive Fault where
  | noServiceName
  | noBusCapacity
  | metricsInterval (text : String) (e : Duration.ReadError)
deriving DecidableEq

def Fault.message : Fault → String
  | noServiceName => "Configuration error: service_name must not be empty"
  | noBusCapacity => "Configuration error: event_bus_capacity must be at least 1"
  | metricsInterval text e =>
    "Configuration error: invalid metrics_interval " ++ quoted text ++ ": " ++ e.message

/-- The first fault: name, capacity, interval. -/
def fault? (c : ServiceConfig) : Option Fault :=
  if isBlankText c.serviceName then some .noServiceName
  else if c.busCapacity = 0 then some .noBusCapacity
  else
    let interval := trim c.metricsInterval
    if interval = "" then none
    else match Duration.ofText interval with
      | .ok _ => none
      | .error e => some (.metricsInterval interval e)

end ServiceConfig

/-- How log lines are written. -/
inductive LogFormat where
  | compact
  | json
deriving DecidableEq, Repr

/-- JSON if the setting is `1` or `true` in any letter case. -/
def LogFormat.ofSetting (setting : Option String) : LogFormat :=
  match setting with
  | some s => if s = "1" ∨ equalIgnoringCase s "true" then .json else .compact
  | none => .compact

end FieldGateway
