import FieldGateway.Transform

/-
  Events: the readings that one command took from one device, each with the value as it is
  presented. A byte string and an object are carried as such, any other value as its text.
-/

namespace FieldGateway

/-- The value of one resource. -/
structure Reading where
  id : String
  /-- Nanoseconds since the epoch. -/
  origin : Int64
  device : String
  resource : String
  profile : String
  type : ValueType
  value : Option String
  binary : Option (List UInt8)
  mediaType : Option String
  object : Option Json
  units : Option String
  tags : TextMap

namespace Reading

/-- A reading of a value. -/
def ofValue (id device profile resource : String) (value : Value) (origin : Int64)
    (p : Properties) (tags : TextMap) : Reading :=
  let plain : Reading :=
    { id, origin, device, resource, profile, type := value.type, value := none, binary := none,
      mediaType := none, object := none, units := p.units, tags }
  match value with
  | .binary bytes => { plain with binary := some bytes, mediaType := p.mediaType }
  | .object members => { plain with object := some (.obj members) }
  | v => { plain with value := some v.encode }

def isBinary (r : Reading) : Bool := r.binary.isSome

/-- Equal readings, doubles in objects being compared as numbers. -/
def same (r s : Reading) : Bool :=
  r.id == s.id && r.origin == s.origin && r.device == s.device && r.resource == s.resource &&
    r.profile == s.profile && r.type == s.type && r.value == s.value && r.binary == s.binary &&
    r.mediaType == s.mediaType && r.units == s.units && decide (r.tags = s.tags) &&
    match r.object, s.object with
    | some x, some y => x.same y
    | none, none => true
    | _, _ => false

/-- A reading and the order in which its tags are written. -/
structure Listed where
  reading : Reading
  tags : reading.tags.Listing

end Reading

structure Event where
  id : String
  device : String
  profile : String
  /-- The command that took the readings. -/
  source : String
  origin : Int64
  readings : List Reading
  tags : TextMap

namespace Event

def hasBinary (e : Event) : Bool := e.readings.any (·.isBinary)

/-- The readings of an event as they are written. The listing of number 0 is that of the tags of
the event itself, the next ones are those of its readings. -/
def listed (e : Event) (listings : Listings) : List Reading.Listed :=
  e.readings.mapIdx fun i r => ⟨r, listings (i + 1) r.tags⟩

@[simp] theorem map_reading_listed (e : Event) (listings : Listings) :
    (e.listed listings).map (·.reading) = e.readings := by
  apply List.ext_getElem <;> simp [listed]

def sameReadings : List Reading → List Reading → Bool
  | [], [] => true
  | r :: rs, s :: ss => r.same s && sameReadings rs ss
  | _, _ => false

def same (e f : Event) : Bool :=
  e.id == f.id && e.device == f.device && e.profile == f.profile && e.source == f.source &&
    e.origin == f.origin && decide (e.tags = f.tags) && sameReadings e.readings f.readings

end Event

end FieldGateway
