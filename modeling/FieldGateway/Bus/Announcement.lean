import FieldGateway.Event.Cooked

/-
  What a service announces: readings, devices going down and coming up, devices added and
  removed, and its own counters. In JSON the member `type` says which.
-/

namespace FieldGateway

open FieldGateway.Json

/-- Whether a device answers. -/
inductive OperatingState where
  | up
  | down
deriving DecidableEq, Repr

def OperatingState.name : OperatingState → String
  | up => "UP"
  | down => "DOWN"

def OperatingState.decoder : Decoder OperatingState := .choice [("UP", up), ("DOWN", down)]

/-- The counters of a service. They are numbers without bound; a counter kept in a word of 64 bits
says the same until it has counted to `2 ^ 64`. -/
structure Metrics where
  eventsSent : Nat := 0
  readingsSent : Nat := 0
  readCommands : Nat := 0
deriving DecidableEq, Repr

namespace Metrics

def toJson (m : Metrics) : Json :=
  sortedObj [("events_sent", .num (.whole m.eventsSent)),
    ("readings_sent", .num (.whole m.readingsSent)),
    ("read_commands_executed", .num (.whole m.readCommands))]

def decoder : Decoder Metrics := fun depth n => do
  let fields ← Fields.of? ["events_sent", "readings_sent", "read_commands_executed"] depth n
  let eventsSent ← fields.required "events_sent" (.count (Word.greatest 64))
  let readingsSent ← fields.required "readings_sent" (.count (Word.greatest 64))
  let readCommands ← fields.required "read_commands_executed" (.count (Word.greatest 64))
  some { eventsSent, readingsSent, readCommands }

end Metrics

/-- What is announced, times in seconds since the epoch. -/
inductive Announcement where
  | readings (device profile source : String) (count : Nat) (contentType : String)
      (payload : List UInt8) (time : Int64)
  | deviceUp (device : String) (time : Int64)
  | deviceDown (device : String) (reason : Option String) (time : Int64)
  | deviceAdded (device profile : String) (time : Int64)
  | deviceRemoved (device : String) (time : Int64)
  | metrics (service : String) (counters : Metrics) (time : Int64)

namespace Announcement

/-- The announcement of an event. -/
def ofCooked (c : CookedEvent) (time : Int64) : Announcement :=
  .readings c.event.device c.event.profile c.event.source c.readingCount c.encoding.contentType
    c.payload time

def typeName : Announcement → String
  | readings .. => "DeviceReadings"
  | deviceUp .. => "DeviceUp"
  | deviceDown .. => "DeviceDown"
  | deviceAdded .. => "DeviceAdded"
  | deviceRemoved .. => "DeviceRemoved"
  | metrics .. => "ServiceMetrics"

/-- The device it is about. -/
def device? : Announcement → Option String
  | readings d .. | deviceUp d _ | deviceDown d .. | deviceAdded d .. | deviceRemoved d _ => some d
  | metrics .. => none

def isReadings : Announcement → Bool
  | readings .. => true
  | _ => false

/-- A device going down or coming up. -/
def isHealth : Announcement → Bool
  | deviceUp .. | deviceDown .. => true
  | _ => false

/-- The members behind the type. -/
def members : Announcement → List (String × Json)
  | readings d p s n c payload t =>
    [("device_name", .str d), ("profile_name", .str p), ("source_name", .str s),
     ("reading_count", .num (.whole n)), ("content_type", .str c), ("payload", ofBytes payload),
     ("timestamp", ofInt64 t)]
  | deviceUp d t | deviceRemoved d t => [("device_name", .str d), ("timestamp", ofInt64 t)]
  | deviceDown d reason t =>
    [("device_name", .str d)] ++ present "reason" .str reason ++ [("timestamp", ofInt64 t)]
  | deviceAdded d p t =>
    [("device_name", .str d), ("profile_name", .str p), ("timestamp", ofInt64 t)]
  | metrics s m t =>
    [("service_name", .str s), ("metrics", m.toJson), ("timestamp", ofInt64 t)]

def toJson (a : Announcement) : Json := sortedObj (("type", .str a.typeName) :: a.members)

/-- The names of the members of each type, in order. -/
def memberNames : String → Option (List String)
  | "DeviceReadings" =>
    some ["device_name", "profile_name", "source_name", "reading_count", "content_type",
      "payload", "timestamp"]
  | "DeviceUp" | "DeviceRemoved" => some ["device_name", "timestamp"]
  | "DeviceDown" => some ["device_name", "reason", "timestamp"]
  | "DeviceAdded" => some ["device_name", "profile_name", "timestamp"]
  | "ServiceMetrics" => some ["service_name", "metrics", "timestamp"]
  | _ => none

/-- The announcement of a type, from its members. -/
def ofFields (type : String) (fields : Fields) : Option Announcement :=
  match type with
  | "DeviceReadings" => do
    some (.readings (← fields.required "device_name" .text)
      (← fields.required "profile_name" .text) (← fields.required "source_name" .text)
      (← fields.required "reading_count" (.count (Word.greatest 64)))
      (← fields.required "content_type" .text) (← fields.required "payload" .bytes)
      (← fields.required "timestamp" .int64))
  | "DeviceUp" => do
    some (.deviceUp (← fields.required "device_name" .text)
      (← fields.required "timestamp" .int64))
  | "DeviceDown" => do
    some (.deviceDown (← fields.required "device_name" .text)
      (← fields.nullable "reason" .text) (← fields.required "timestamp" .int64))
  | "DeviceAdded" => do
    some (.deviceAdded (← fields.required "device_name" .text)
      (← fields.required "profile_name" .text) (← fields.required "timestamp" .int64))
  | "DeviceRemoved" => do
    some (.deviceRemoved (← fields.required "device_name" .text)
      (← fields.required "timestamp" .int64))
  | "ServiceMetrics" => do
    some (.metrics (← fields.required "service_name" .text)
      (← fields.required "metrics" Metrics.decoder) (← fields.required "timestamp" .int64))
  | _ => none

/-- The type and the node of the members behind it: the member `type`, or the first item. -/
def split? : Node → Option (String × Node)
  | .obj ms =>
    match ms.filter fun m => m.1 == some "type" with
    | [(_, .str (some type))] => some (type, .obj (ms.filter fun m => m.1 != some "type"))
    | _ => none
  | .arr (.str (some type) :: xs) => some (type, .arr xs)
  | _ => none

/-- Since the type may come last, the whole text has to have a value. -/
def decoder : Decoder Announcement := fun depth n => do
  let _ ← ofNode? depth n
  let (type, rest) ← split? n
  let names ← memberNames type
  let fields ← Fields.of? names depth rest
  ofFields type fields

end Announcement

/-- What goes with an announcement on the bus. -/
structure Metadata where
  eventId : String
  correlation : Option String
  source : String
  time : Int64
deriving DecidableEq

namespace Metadata

def toJson (m : Metadata) : Json :=
  sortedObj ([("event_id", .str m.eventId)] ++ present "correlation_id" .str m.correlation ++
    [("source", .str m.source), ("timestamp", ofInt64 m.time)])

def decoder : Decoder Metadata := fun depth n => do
  let fields ← Fields.of? ["event_id", "correlation_id", "source", "timestamp"] depth n
  let eventId ← fields.required "event_id" .text
  let correlation ← fields.nullable "correlation_id" .text
  let source ← fields.required "source" .text
  let time ← fields.required "timestamp" .int64
  some { eventId, correlation, source, time }

end Metadata

end FieldGateway
