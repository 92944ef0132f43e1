import FieldGateway.Json.Writer
import FieldGateway.Profile.Basic

/-
  Profiles as JSON. A property without a value is left out when a profile is written, and a
  property left out has its default when one is read.
-/

namespace FieldGateway

open FieldGateway.Json

/-- A member that is left out when there is nothing to write. -/
def Json.present {α : Type} (name : String) (value : α → Json) : Option α → List (String × Json)
  | some x => [(name, value x)]
  | none => []

def Json.ofTexts (xs : List String) : Json := .arr (xs.map .str)

/-- A direction by itself is written as one word. -/
def Direction.word : Direction → String
  | get => "Get"
  | set => "Set"

def Direction.decoder : Decoder Direction := .choice [("Get", get), ("Set", set)]

namespace Access

def name : Access → String
  | read => "R"
  | write => "W"
  | readWrite => "RW"

/-- Both letters may stand in either order. -/
def decoder : Decoder Access :=
  .choice [("R", read), ("W", write), ("RW", readWrite), ("WR", readWrite)]

end Access

namespace Properties

def decoder : Decoder Properties := fun depth n => do
  let fields ← Fields.of? ["valueType", "readWrite", "mask", "defaultValue", "minimum", "maximum",
    "scale", "offset", "base", "units", "mediaType"] depth n
  let type ← fields.required "valueType" ValueType.decoder
  let access ← fields.withDefault "readWrite" .readWrite Access.decoder
  let mask ← fields.optional "mask" (.count (Word.greatest 64))
  let defaultText ← fields.optional "defaultValue" .text
  let minimum ← fields.optional "minimum" .real
  let maximum ← fields.optional "maximum" .real
  let scale ← fields.optional "scale" .real
  let offset ← fields.optional "offset" .real
  let base ← fields.optional "base" .real
  let units ← fields.optional "units" .text
  let mediaType ← fields.optional "mediaType" .text
  some { type, access, mask := mask.map UInt64.ofNat, defaultText, minimum, maximum, scale, offset,
         base, units, mediaType }

def toJson (p : Properties) : Json :=
  let real (x : Floating.Double) : Json := .num (.real x)
  sortedObj <|
    [("valueType", .str p.type.name), ("readWrite", .str p.access.name)] ++
    present "mask" (fun m => .num (.whole m.toNat)) p.mask ++
    present "defaultValue" .str p.defaultText ++
    present "minimum" real p.minimum ++ present "maximum" real p.maximum ++
    present "scale" real p.scale ++ present "offset" real p.offset ++
    present "base" real p.base ++
    present "units" .str p.units ++ present "mediaType" .str p.mediaType

end Properties

namespace Resource

def decoder : Decoder Resource := fun depth n => do
  let fields ← Fields.of? ["name", "description", "properties", "attributes"] depth n
  let name ← fields.required "name" .text
  let description ← fields.withDefault "description" "" .text
  let properties ← fields.required "properties" Properties.decoder
  let attributes ← fields.withDefault "attributes" .null .any
  some { name, description, properties, attributes }

def toJson (r : Resource) : Json :=
  sortedObj [("name", .str r.name), ("description", .str r.description),
    ("properties", r.properties.toJson), ("attributes", r.attributes)]

end Resource

namespace Operation

def decoder : Decoder Operation := fun depth n => do
  let fields ← Fields.of? ["deviceResource", "defaultValue", "mappings"] depth n
  let resource ← fields.required "deviceResource" .text
  let defaultText ← fields.optional "defaultValue" .text
  let mappings ← fields.withDefault "mappings" ∅ (.dict .text)
  some { resource, defaultText, mappings }

def toJson (o : Operation) : Json :=
  sortedObj <|
    [("deviceResource", .str o.resource)] ++ present "defaultValue" .str o.defaultText ++
    (if o.mappings.isEmpty then [] else [("mappings", ofTextMap o.mappings)])

end Operation

namespace Declaration

def decoder : Decoder Declaration := fun depth n => do
  let fields ← Fields.of? ["name", "readWrite", "resourceOperations"] depth n
  let name ← fields.required "name" .text
  let access ← fields.withDefault "readWrite" .readWrite Access.decoder
  let operations ← fields.withDefault "resourceOperations" [] (.list Operation.decoder)
  some { name, access, operations }

def toJson (c : Declaration) : Json :=
  sortedObj [("name", .str c.name), ("readWrite", .str c.access.name),
    ("resourceOperations", .arr (c.operations.map (·.toJson)))]

end Declaration

namespace Profile

def decoder : Decoder Profile := fun depth n => do
  let fields ← Fields.of? ["name", "description", "manufacturer", "model", "labels",
    "deviceResources", "deviceCommands"] depth n
  let name ← fields.required "name" .text
  let description ← fields.withDefault "description" "" .text
  let manufacturer ← fields.withDefault "manufacturer" "" .text
  let model ← fields.withDefault "model" "" .text
  let labels ← fields.withDefault "labels" [] (.list .text)
  let resources ← fields.withDefault "deviceResources" [] (.list Resource.decoder)
  let commands ← fields.withDefault "deviceCommands" [] (.list Declaration.decoder)
  some { name, description, manufacturer, model, labels, resources, commands }

def toJson (p : Profile) : Json :=
  sortedObj [("name", .str p.name), ("description", .str p.description),
    ("manufacturer", .str p.manufacturer), ("model", .str p.model),
    ("labels", ofTexts p.labels),
    ("deviceResources", .arr (p.resources.map (·.toJson))),
    ("deviceCommands", .arr (p.commands.map (·.toJson)))]

end Profile

end FieldGateway
