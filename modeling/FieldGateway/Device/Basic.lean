import FieldGateway.Dict

/-
  Devices as they are asked for: a name, the profile it follows, how it is reached, and which of
  its commands are to be sampled on their own.
-/

namespace FieldGateway

/-- Whether operators let a device, or a service, be used. -/
inductive AdminState where
  | locked
  | unlocked
deriving DecidableEq, Repr

def AdminState.name : AdminState → String
  | locked => "LOCKED"
  | unlocked => "UNLOCKED"

/-- The properties under which each protocol reaches a device. -/
abbrev Protocols := Dict TextMap

/-- A command to be read at an interval, given in words such as `10s`. -/
structure AutoEvent where
  source : String
  interval : String
  /-- Only readings that differ from the ones before are published. -/
  onChange : Bool := false
deriving DecidableEq, Repr

structure DeviceConfig where
  name : String
  profileName : String
  description : String := ""
  admin : AdminState := .unlocked
  protocols : Protocols := ∅
  labels : List String := []
  autoEvents : List AutoEvent := []

end FieldGateway
