import FieldGateway.Event.Json
import FieldGateway.Event.Layout

/-
  Cooked events: an event with its payload, as it is published. The payload is JSON unless a
  reading is binary, and it has the tags in the order in which they are listed; `Event.decode` is
  what a subscriber does with it.
-/

namespace FieldGateway

inductive EventEncoding where
  | json
  | binary
deriving DecidableEq, Repr

namespace EventEncoding

def contentType : EventEncoding → String
  | json => "application/json"
  | binary => "application/octet-stream"

def name : EventEncoding → String
  | json => "Json"
  | binary => "Binary"

def decoder : Json.Decoder EventEncoding := .choice [("Json", json), ("Binary", binary)]

end EventEncoding

namespace Event

/-- Why a payload is no event. -/
inductive DecodeError where
  | malformed
  | unsupported (contentType : String)
deriving DecidableEq, Repr

def DecodeError.message : DecodeError → String
  | malformed => "Serialization error: malformed event"
  | unsupported t => "Serialization error: unsupported event content type " ++ t

/-- Reads a payload. Bytes behind a binary event are not looked at. -/
def decode (contentType : String) (payload : List UInt8) : Except DecodeError Event :=
  let orMalformed (e : Option Event) : Except DecodeError Event :=
    match e with
    | some e => .ok e
    | none => .error .malformed
  if contentType = EventEncoding.json.contentType then
    orMalformed (Json.decodeBytes decoder payload)
  else if contentType = EventEncoding.binary.contentType then
    orMalformed ((Layout.takeEvent payload).map (·.1))
  else .error (.unsupported contentType)

end Event

/-- An event and its payload. -/
structure CookedEvent where
  encoding : EventEncoding
  payload : List UInt8
  event : Event

namespace CookedEvent

/-- The event and its payload, with the tags as they are listed; sorted, if nothing else is said. -/
def encode (e : Event) (listings : Listings := Listings.sorted) : CookedEvent :=
  if e.hasBinary then ⟨.binary, Event.Layout.putEvent e listings [], e⟩
  else ⟨.json, Text.utf8 (e.toJson listings).text, e⟩

def size (c : CookedEvent) : Nat := c.payload.length

def readingCount (c : CookedEvent) : Nat := c.event.readings.length

end CookedEvent

end FieldGateway
