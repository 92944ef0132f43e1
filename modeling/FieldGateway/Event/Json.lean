import FieldGateway.Event.Basic
import FieldGateway.Profile.Json

/-
  Events as JSON: every field is written, in the order of its declaration, null for none. The tags
  are written as they are listed.
-/

namespace FieldGateway

open FieldGateway.Json

def Json.orNull {α : Type} (value : α → Json) : Option α → Json
  | some x => value x
  | none => .null

def Json.ofBytes (bytes : List UInt8) : Json := .arr (bytes.map fun b => .num (.whole b.toNat))

def Json.ofInt64 (i : Int64) : Json := .num (.whole i.toInt)

namespace Json.Decoder

/-- A whole number of 64 bits with a sign. -/
def int64 : Decoder Int64 := fun depth n =>
  (whole (Word.leastSigned 64) (Word.greatestSigned 64) depth n).map Int64.ofInt

def bytes : Decoder (List UInt8) := fun depth n =>
  (list (count 255) depth n).map (·.map UInt8.ofNat)

end Json.Decoder

namespace Reading

def Listed.toJson : Listed → Json
  | ⟨r, tags⟩ =>
    .obj [("id", .str r.id), ("origin", ofInt64 r.origin), ("deviceName", .str r.device),
      ("resourceName", .str r.resource), ("profileName", .str r.profile),
      ("valueType", .str r.type.name), ("value", orNull .str r.value),
      ("binaryValue", orNull ofBytes r.binary), ("mediaType", orNull .str r.mediaType),
      ("objectValue", orNull (fun j => j) r.object), ("units", orNull .str r.units),
      ("tags", ofListing tags)]

def decoder : Decoder Reading := fun depth n => do
  let fields ← Fields.of? ["id", "origin", "deviceName", "resourceName", "profileName",
    "valueType", "value", "binaryValue", "mediaType", "objectValue", "units", "tags"] depth n
  let id ← fields.required "id" .text
  let origin ← fields.required "origin" .int64
  let device ← fields.required "deviceName" .text
  let resource ← fields.required "resourceName" .text
  let profile ← fields.required "profileName" .text
  let type ← fields.required "valueType" ValueType.decoder
  let value ← fields.nullable "value" .text
  let binary ← fields.nullable "binaryValue" .bytes
  let mediaType ← fields.nullable "mediaType" .text
  let object ← fields.nullable "objectValue" .any
  let units ← fields.nullable "units" .text
  let tags ← fields.required "tags" (.dict .text)
  some { id, origin, device, resource, profile, type, value, binary, mediaType, object, units,
         tags }

end Reading

namespace Event

def toJson (e : Event) (listings : Listings) : Json :=
  .obj [("id", .str e.id), ("deviceName", .str e.device), ("profileName", .str e.profile),
    ("sourceName", .str e.source), ("origin", ofInt64 e.origin),
    ("readings", .arr ((e.listed listings).map (·.toJson))),
    ("tags", ofListing (listings 0 e.tags))]

def decoder : Decoder Event := fun depth n => do
  let fields ← Fields.of? ["id", "deviceName", "profileName", "sourceName", "origin", "readings",
    "tags"] depth n
  let id ← fields.required "id" .text
  let device ← fields.required "deviceName" .text
  let profile ← fields.required "profileName" .text
  let source ← fields.required "sourceName" .text
  let origin ← fields.required "origin" .int64
  let readings ← fields.required "readings" (.list Reading.decoder)
  let tags ← fields.required "tags" (.dict .text)
  some { id, device, profile, source, origin, readings, tags }

end Event

end FieldGateway
