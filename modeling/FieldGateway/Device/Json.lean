import FieldGateway.Device.Basic
import FieldGateway.Profile.Json

/-
  Devices as JSON. Every field is written; all but the names have defaults when read.
-/

namespace FieldGateway

open FieldGateway.Json

def AdminState.decoder : Decoder AdminState :=
  .choice [("LOCKED", locked), ("UNLOCKED", unlocked)]

namespace AutoEvent

def decoder : Decoder AutoEvent := fun depth n => do
  let fields ← Fields.of? ["sourceName", "interval", "onChange"] depth n
  let source ← fields.required "sourceName" .text
  let interval ← fields.required "interval" .text
  let onChange ← fields.withDefault "onChange" false .bool
  some { source, interval, onChange }

def toJson (a : AutoEvent) : Json :=
  sortedObj [("sourceName", .str a.source), ("interval", .str a.interval),
    ("onChange", .bool a.onChange)]

end AutoEvent

namespace DeviceConfig

def decoder : Decoder DeviceConfig := fun depth n => do
  let fields ← Fields.of? ["name", "profileName", "description", "adminState", "protocols",
    "labels", "autoEvents"] depth n
  let name ← fields.required "name" .text
  let profileName ← fields.required "profileName" .text
  let description ← fields.withDefault "description" "" .text
  let admin ← fields.withDefault "adminState" .unlocked AdminState.decoder
  let protocols ← fields.withDefault "protocols" ∅ (.dict (.dict .text))
  let labels ← fields.withDefault "labels" [] (.list .text)
  let autoEvents ← fields.withDefault "autoEvents" [] (.list AutoEvent.decoder)
  some { name, profileName, description, admin, protocols, labels, autoEvents }

def toJson (c : DeviceConfig) : Json :=
  sortedObj [("name", .str c.name), ("profileName", .str c.profileName),
    ("description", .str c.description), ("adminState", .str c.admin.name),
    ("protocols", ofDict (c.protocols.mapValues ofTextMap)), ("labels", ofTexts c.labels),
    ("autoEvents", .arr (c.autoEvents.map (·.toJson)))]

end DeviceConfig

end FieldGateway
