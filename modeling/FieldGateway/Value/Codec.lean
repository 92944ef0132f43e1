import FieldGateway.Floating.Text
import FieldGateway.Json.Writer
import FieldGateway.Text.Base64
import FieldGateway.Value.Basic

/-
  Values as wire text. Scalars are written in plain text, byte strings in base 64, objects and
  arrays as JSON. Reading is by type and is more liberal than writing: blanks around a scalar,
  any letter case of a truth value, a floating-point number given by its bytes in base 64.
-/

namespace FieldGateway

open FieldGateway.Floating FieldGateway.Text

/-- The word whose little-endian bytes are given. -/
def wordOfBytes (bytes : List UInt8) : Nat := bytes.foldr (fun b n => b.toNat + 256 * n) 0

/-- The first `count` little-endian bytes of a word. -/
def bytesOfWord : (count : Nat) → Nat → List UInt8
  | 0, _ => []
  | count + 1, n => UInt8.ofNat (n % 256) :: bytesOfWord count (n / 256)

/-- A floating-point number given by its `size` bytes in base 64. -/
def readFloatBytes (f : Format) (size : Nat) (s : List Char) : Option (Number f) := do
  let bytes ← Base64.decode s
  if bytes.length = size then some ⟨BitVec.ofNat f.width (wordOfBytes bytes)⟩ else none

namespace ScalarType

/-- Reads a scalar from a text. -/
def read : (t : ScalarType) → List Char → Option t.Carrier
  | bool, s =>
    let word := (trimChars s).map lowerChar
    if word = "true".toList then some true
    else if word = "false".toList then some false
    else none
  | string, s => some (String.ofList s)
  | int t, s => do
    let i ← if t.signed then readSigned (trimChars s)
      else (readUnsigned (trimChars s)).map Int.ofNat
    t.ofInt? i
  | float32, s =>
    (readNumber Format.single (trimChars s)).or (readFloatBytes Format.single 4 (trimChars s))
  | float64, s =>
    (readNumber Format.double (trimChars s)).or (readFloatBytes Format.double 8 (trimChars s))

/-- The text of a scalar. -/
def chars : (t : ScalarType) → t.Carrier → List Char
  | bool, b => if b then "true".toList else "false".toList
  | string, s => s.toList
  | int t, x => intChars (t.toInt x)
  | float32, x => x.chars
  | float64, x => x.chars

/-- The text that an item of a JSON array is read from: a string stands for its content. -/
def itemText : Json → List Char
  | .str s => s.toList
  | j => j.chars

/-- The text of a scalar as an item of an array: only strings are quoted. -/
def writeItem : (t : ScalarType) → t.Carrier → List Char → List Char
  | string, s, rest => Json.writeString s rest
  | t, x, rest => t.chars x ++ rest

def writeItems (t : ScalarType) : List t.Carrier → List Char → List Char
  | [], rest => ']' :: rest
  | x :: xs, rest => ',' :: t.writeItem x (t.writeItems xs rest)

def writeArray (t : ScalarType) : List t.Carrier → List Char
  | [] => ['[', ']']
  | x :: xs => '[' :: t.writeItem x (t.writeItems xs [])

end ScalarType

namespace Value

/-- Reads a value of a type from wire text. -/
def decode : ValueType → String → Option Value
  | .scalar t, raw => (t.read raw.toList).map (scalar t)
  | .binary, raw => (Base64.decode (trimChars raw.toList)).map binary
  | .object, raw =>
    match Json.ofText? raw with
    | some (.obj members) => some (object members)
    | _ => none
  | .array t, raw =>
    match Json.ofText? raw with
    | some (.arr items) =>
      (items.mapM fun item => t.read (ScalarType.itemText item)).map (array t)
    | _ => none

/-- Takes raw bytes for a byte string, and for nothing else. -/
def decodeBytes : ValueType → List UInt8 → Option Value
  | .binary, bytes => some (binary bytes)
  | _, _ => none

/-- The wire text of a value. -/
def encode : Value → String
  | scalar t x => String.ofList (t.chars x)
  | binary bytes => String.ofList (Base64.encode bytes)
  | object members => (Json.obj members).text
  | array t xs => String.ofList (t.writeArray xs)

end Value

end FieldGateway
