import FieldGateway.Event.Basic
import FieldGateway.Text.Utf8

/-
  Events as bytes. Numbers have a fixed width and the low byte first; a text, a list and a map
  begin with their length in eight bytes; an optional field begins with a byte 0 or 1; a record
  is its fields in order, a map its entries as they are listed. Each `put` writes in front of what
  follows, each `take` reads from the head of the bytes and hands on the rest. A JSON value is
  written without a word about its kind, so it cannot be read back, and reading an event that has
  one fails.
-/

namespace FieldGateway.Event.Layout

open FieldGateway.Text

/-- Reads one thing from the head of the bytes. -/
abbrev Take (α : Type) := List UInt8 → Option (α × List UInt8)

def putWord (n : Nat) (rest : List UInt8) : List UInt8 := bytesOfWord 8 n ++ rest

def takeBytes (n : Nat) : Take (List UInt8) := fun bytes =>
  if (bytes.take n).length = n then some (bytes.take n, bytes.drop n) else none

def takeWord : Take Nat := fun bytes => (takeBytes 8 bytes).map fun p => (wordOfBytes p.1, p.2)

def putBytes (b : List UInt8) (rest : List UInt8) : List UInt8 := putWord b.length (b ++ rest)

def takeCounted : Take (List UInt8) := fun bytes => do
  let (n, bytes) ← takeWord bytes
  takeBytes n bytes

def putText (s : String) (rest : List UInt8) : List UInt8 := putBytes (utf8 s) rest

def takeText : Take String := fun bytes => do
  let (b, bytes) ← takeCounted bytes
  let s ← ofUtf8? b
  some (s, bytes)

def putInt64 (i : Int64) (rest : List UInt8) : List UInt8 := putWord i.toUInt64.toNat rest

def takeInt64 : Take Int64 := fun bytes =>
  (takeWord bytes).map fun p => ((UInt64.ofNat p.1).toInt64, p.2)

def putOption {α : Type} (put : α → List UInt8 → List UInt8) :
    Option α → List UInt8 → List UInt8
  | none, rest => 0 :: rest
  | some x, rest => 1 :: put x rest

def takeOption {α : Type} (take : Take α) : Take (Option α)
  | 0 :: bytes => some (none, bytes)
  | 1 :: bytes => (take bytes).map fun p => (some p.1, p.2)
  | _ => none

/-- So many things in a row. -/
def takeMany {α : Type} (take : Take α) : Nat → Take (List α)
  | 0, bytes => some ([], bytes)
  | n + 1, bytes => do
    let (x, bytes) ← take bytes
    let (xs, bytes) ← takeMany take n bytes
    some (x :: xs, bytes)

def takeList {α : Type} (take : Take α) : Take (List α) := fun bytes => do
  let (n, bytes) ← takeWord bytes
  takeMany take n bytes

def putList {α : Type} (put : α → List UInt8 → List UInt8) (xs : List α)
    (rest : List UInt8) : List UInt8 :=
  putWord xs.length (xs.foldr put rest)

def putEntry (e : String × String) (rest : List UInt8) : List UInt8 :=
  putText e.1 (putText e.2 rest)

def takeEntry : Take (String × String) := fun bytes => do
  let (k, bytes) ← takeText bytes
  let (v, bytes) ← takeText bytes
  some ((k, v), bytes)

def putListing {m : TextMap} (l : m.Listing) (rest : List UInt8) : List UInt8 :=
  putList putEntry l.entries rest

def takeTextMap : Take TextMap := fun bytes =>
  (takeList takeEntry bytes).map fun p => (Dict.ofList p.1, p.2)

def putType (t : ValueType) (rest : List UInt8) : List UInt8 := putText t.name rest

def takeType : Take ValueType := fun bytes => do
  let (s, bytes) ← takeText bytes
  let t ← (ValueType.ofName s).toOption
  some (t, bytes)

mutual

/-- A JSON value: nothing for null, and no mark of its kind for any other. -/
def putJson : Json → List UInt8 → List UInt8
  | .null, rest => rest
  | .bool b, rest => (if b then 1 else 0) :: rest
  | .num (.whole i), rest => putWord (i % twoPow 64).toNat rest
  | .num (.real x), rest => putWord x.word.toNat rest
  | .str s, rest => putText s rest
  | .arr xs, rest => putWord xs.length (putItems xs rest)
  | .obj ms, rest => putWord ms.length (putMembers ms rest)

def putItems : List Json → List UInt8 → List UInt8
  | [], rest => rest
  | x :: xs, rest => putJson x (putItems xs rest)

def putMembers : List (String × Json) → List UInt8 → List UInt8
  | [], rest => rest
  | (k, v) :: ms, rest => putText k (putJson v (putMembers ms rest))

end

def takeJson : Take Json := fun _ => none

def putReading : Reading.Listed → List UInt8 → List UInt8
  | ⟨r, tags⟩, rest =>
    putText r.id <| putInt64 r.origin <| putText r.device <| putText r.resource <|
      putText r.profile <| putType r.type <| putOption putText r.value <|
      putOption putBytes r.binary <| putOption putText r.mediaType <|
      putOption putJson r.object <| putOption putText r.units <| putListing tags rest

def takeReading : Take Reading := fun bytes => do
  let (id, bytes) ← takeText bytes
  let (origin, bytes) ← takeInt64 bytes
  let (device, bytes) ← takeText bytes
  let (resource, bytes) ← takeText bytes
  let (profile, bytes) ← takeText bytes
  let (type, bytes) ← takeType bytes
  let (value, bytes) ← takeOption takeText bytes
  let (binary, bytes) ← takeOption takeCounted bytes
  let (mediaType, bytes) ← takeOption takeText bytes
  let (object, bytes) ← takeOption takeJson bytes
  let (units, bytes) ← takeOption takeText bytes
  let (tags, bytes) ← takeTextMap bytes
  some ({ id, origin, device, resource, profile, type, value, binary, mediaType, object, units,
          tags }, bytes)

def putEvent (e : Event) (listings : Listings) (rest : List UInt8) : List UInt8 :=
  putText e.id <| putText e.device <| putText e.profile <| putText e.source <|
    putInt64 e.origin <| putList putReading (e.listed listings) <|
    putListing (listings 0 e.tags) rest

def takeEvent : Take Event := fun bytes => do
  let (id, bytes) ← takeText bytes
  let (device, bytes) ← takeText bytes
  let (profile, bytes) ← takeText bytes
  let (source, bytes) ← takeText bytes
  let (origin, bytes) ← takeInt64 bytes
  let (readings, bytes) ← takeList takeReading bytes
  let (tags, bytes) ← takeTextMap bytes
  some ({ id, device, profile, source, origin, readings, tags }, bytes)

end FieldGateway.Event.Layout
