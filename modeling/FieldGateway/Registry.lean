import FieldGateway.Device.Basic
import FieldGateway.Driver.Error
import FieldGateway.Profile.Basic

/-
  The profiles and devices of a site. A profile is registered once under its name and stays while
  a device follows it. A device is replaced by a new incarnation when its configuration changes;
  who still holds the old one holds it as it was.
-/

namespace FieldGateway

/-- A profile as it was registered. The serial tells apart what was registered under one name at
different times. -/
structure Registration where
  serial : Nat
  profile : Profile

/-- One incarnation of a device: what does not change while it is registered. -/
structure Device where
  serial : Nat
  name : String
  description : String
  registration : Registration
  protocols : Protocols
  labels : List String
  autoEvents : List AutoEvent

namespace Device

def profile (d : Device) : Profile := d.registration.profile

/-- The incarnation that a configuration asks for. -/
def ofConfig (serial : Nat) (registration : Registration) (c : DeviceConfig) : Device :=
  { serial, name := c.name, description := c.description, registration, protocols := c.protocols,
    labels := c.labels, autoEvents := c.autoEvents }

/-- The configuration that asks for this device. -/
def toConfig (d : Device) (admin : AdminState) : DeviceConfig :=
  { name := d.name, profileName := d.profile.name, description := d.description, admin,
    protocols := d.protocols, labels := d.labels, autoEvents := d.autoEvents }

end Device

structure Registry where
  profiles : Dict Registration := ∅
  devices : Dict Device := ∅

namespace Registry

def profile? (r : Registry) (name : String) : Option Registration := r.profiles.find? name

def device? (r : Registry) (name : String) : Option Device := r.devices.find? name

/-- A device follows a profile of that name. -/
def inUse (r : Registry) (profileName : String) : Bool :=
  r.devices.values.any fun d => d.profile.name == profileName

/-- Registers a profile without flaws under a name that is free. -/
def addProfile (r : Registry) (serial : Nat) (p : Profile) : Except DeviceError Registry :=
  match p.flaw? with
  | some flaw => .error (.invalidProfile flaw.message)
  | none =>
    if r.profiles.contains p.name then .error (.alreadyExists p.name)
    else .ok { r with profiles := r.profiles.insert p.name ⟨serial, p⟩ }

/-- Removes a profile that no device follows. -/
def removeProfile (r : Registry) (name : String) : Except DeviceError Registry :=
  if r.inUse name then .error (.profileInUse name)
  else if r.profiles.contains name then .ok { r with profiles := r.profiles.erase name }
  else .error (.noProfile name)

/-- Registers a device under a name that is free. -/
def insertDevice (r : Registry) (d : Device) : Except DeviceError Registry :=
  if r.devices.contains d.name then .error (.alreadyExists d.name)
  else .ok { r with devices := r.devices.insert d.name d }

/-- Puts a new incarnation in the place of the old one. -/
def replaceDevice (r : Registry) (d : Device) : Except DeviceError Registry :=
  if r.devices.contains d.name then .ok { r with devices := r.devices.insert d.name d }
  else .error (.noDevice d.name)

def removeDevice (r : Registry) (name : String) : Except DeviceError Registry :=
  if r.devices.contains name then .ok { r with devices := r.devices.erase name }
  else .error (.noDevice name)

end Registry

end FieldGateway
