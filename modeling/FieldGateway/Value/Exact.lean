import FieldGateway.Json.Writer
import FieldGateway.Text.Hex
import FieldGateway.Value.Basic

/-
  Values as JSON with their types and without the loss of a bit: whole numbers in decimal text,
  floating-point numbers by their words, bytes in hexadecimal digits, objects as JSON text.
-/

namespace FieldGateway

open FieldGateway.Floating FieldGateway.Text

/-- A floating-point number by its word; all NaNs are one. -/
def Floating.Number.toExact {f : Format} (x : Number f) : Json :=
  .str (if x.isNaN then "nan" else hexWord (f.width / 4) x.word.toNat)

def Floating.Number.ofExact? (f : Format) : Json → Option (Number f)
  | .str "nan" => some (Number.nan f)
  | .str s => (readHexWord s.toList).map fun n => ⟨BitVec.ofNat f.width n⟩
  | _ => none

/-- A whole number, also in decimal text. -/
def Json.toWhole? : Json → Option Int
  | .num (.whole i) => some i
  | .str s => readSigned s.toList
  | _ => none

namespace ScalarType

def toExact : (t : ScalarType) → t.Carrier → Json
  | bool, b => .bool b
  | string, s => .str s
  | int t, x => .str (intText (t.toInt x))
  | float32, x => x.toExact
  | float64, x => x.toExact

def ofExact? : (t : ScalarType) → Json → Option t.Carrier
  | bool, .bool b => some b
  | string, .str s => some s
  | int t, j => j.toWhole?.bind t.ofInt?
  | float32, j => Number.ofExact? Format.single j
  | float64, j => Number.ofExact? Format.double j
  | _, _ => none

end ScalarType

namespace Value

def content : Value → Json
  | scalar t x => t.toExact x
  | binary bytes => .str (hexText bytes)
  | object members => .str (Json.obj members).text
  | array t xs => .arr (xs.map t.toExact)

def toExact (v : Value) : Json := .obj [("type", .str v.type.name), ("value", v.content)]

def ofContent? : ValueType → Json → Option Value
  | .scalar t, j => (t.ofExact? j).map (scalar t)
  | .binary, .str s => (readHex s.toList).map binary
  | .object, .str s =>
    match Json.ofText? s with
    | some (.obj members) => some (object members)
    | _ => none
  | .array t, .arr items => (items.mapM t.ofExact?).map (array t)
  | _, _ => none

def ofExact? (j : Json) : Option Value :=
  match j.member? "type", j.member? "value" with
  | some (.str type), some content => (ValueType.ofName type).toOption.bind (ofContent? · content)
  | _, _ => none

end Value

end FieldGateway
