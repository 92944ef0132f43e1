import FieldGateway.Bus.Basic
import FieldGateway.Driver.Basic
import FieldGateway.Registry

/-
  What happens at a site: the calls of its driver with what came of them, the reports on the
  health of devices, the reports to the metadata service, and what goes to the bus or to a
  publisher of one's own.
-/

namespace FieldGateway

/-- A call of the driver, for an incarnation of a device where there is one, and its outcome. -/
inductive Exchange where
  | prepare (outcome : Except DriverError Unit)
  | address (device : Device) (outcome : Except DriverError Address)
  /-- The attributes of a resource were parsed for the commands of a profile. -/
  | parse (profile : Registration) (resource : String)
  | read (device : Device) (address : Address) (requests : List Request)
      (outcome : Except DriverError (List Result))
  | write (device : Device) (address : Address) (requests : List Request) (values : List Value)
      (outcome : Except DriverError Unit)
  | added (device : Device)
  | updated (device : Device)
  | removed (name : String)
  | stop (force : Bool)
  | startSampling (device : Device) (source : String) (requests : List Request)
      (interval : Duration) (onChange : Bool) (outcome : Except DriverError Handle)
  | stopSampling (handle : Handle)

/-- What work with a device says of its health. -/
inductive Report where
  /-- The device answered as it should. -/
  | success
  /-- The device did not answer. -/
  | failure
  /-- The answer was no answer to what was asked. -/
  | violation
deriving DecidableEq, Repr

inductive Effect where
  | driver (e : Exchange)
  /-- Work with a device ended with a report, whatever it changed. -/
  | reported (device : Device) (r : Report)
  /-- The metadata service was told whether a device answers. -/
  | stateReported (device : String) (state : OperatingState)
  /-- The metadata service was told that a device answered now. -/
  | connectionReported (device : String)
  | announced (source : String) (a : Announcement)
  /-- A publisher of one's own was given the event of a command. -/
  | handedOver (source : String) (readings : Nat)

end FieldGateway
