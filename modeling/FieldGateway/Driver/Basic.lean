import FieldGateway.Command.Basic
import FieldGateway.Device.Basic
import FieldGateway.Driver.Error
import FieldGateway.Duration

/-
  Drivers: what speaks to devices in their own protocol. A driver has a state of its own, which
  stands for the devices behind it too; each call answers and leaves a new state.
-/

namespace FieldGateway

/-- How a driver finds a device, in the driver's own terms. -/
abbrev Address := String

/-- A driver's own name for a sampling it runs. -/
abbrev Handle := String

/-- What a driver offers that samples devices on a schedule of its own. -/
structure Driver.Sampling (σ : Type) where
  /-- Device, protocols, command, requests, interval, whether changes alone are of interest. -/
  start : σ → String → Protocols → String → List Request → Duration → Bool →
    Except DriverError Handle × σ
  stop : σ → Handle → σ

structure Driver (σ : Type) where
  /-- Made ready before a service starts. -/
  prepare : σ → Except DriverError Unit × σ
  /-- The address of a device. -/
  createAddress : σ → String → Protocols → Except DriverError Address × σ
  /-- Whether a device can be reached by these protocols, before it is registered. -/
  checkAddress : σ → Protocols → Except DriverError Unit
  /-- The attributes of a resource, in the form that requests carry them. -/
  parseAttributes : σ → String → Json → Except DriverError Json
  /-- Reads resources of a device: one result for each request, in order. -/
  read : σ → String → Address → List Request → Except DriverError (List Result) × σ
  /-- Writes values to resources of a device, one for each request. -/
  write : σ → String → Address → List Request → List Value → Except DriverError Unit × σ
  added : σ → String → Protocols → σ
  updated : σ → String → Protocols → σ
  removed : σ → String → σ
  stop : σ → (force : Bool) → σ
  /-- Without it, the service samples by timers. -/
  sampling : Option (Driver.Sampling σ)

end FieldGateway
