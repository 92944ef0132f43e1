import FieldGateway.Json.Record

/-
  The types of values and their names in profiles: scalars, arrays of a scalar type, byte
  strings, and JSON objects.
-/

namespace FieldGateway

/-- The eight types of whole numbers. -/
inductive IntType where
  | uint8 | uint16 | uint32 | uint64 | int8 | int16 | int32 | int64
deriving DecidableEq, Repr

namespace IntType

/-- The number of bits. -/
@[reducible] def width : IntType → Nat
  | uint8 | int8 => 8
  | uint16 | int16 => 16
  | uint32 | int32 => 32
  | uint64 | int64 => 64

def signed : IntType → Bool
  | uint8 | uint16 | uint32 | uint64 => false
  | int8 | int16 | int32 | int64 => true

def least (t : IntType) : Int := if t.signed then Word.leastSigned t.width else 0

def greatest (t : IntType) : Int :=
  if t.signed then Word.greatestSigned t.width else Word.greatest t.width

/-- The number that a word of the type stands for. -/
def toInt (t : IntType) (x : BitVec t.width) : Int := if t.signed then x.toInt else x.toNat

/-- The word of a number within the range of the type. -/
def ofInt? (t : IntType) (i : Int) : Option (BitVec t.width) :=
  if t.least ≤ i ∧ i ≤ t.greatest then some (BitVec.ofInt t.width i) else none

def name : IntType → String
  | uint8 => "Uint8"
  | uint16 => "Uint16"
  | uint32 => "Uint32"
  | uint64 => "Uint64"
  | int8 => "Int8"
  | int16 => "Int16"
  | int32 => "Int32"
  | int64 => "Int64"

end IntType

/-- The types an array may be made of. -/
inductive ScalarType where
  | bool
  | string
  | int (t : IntType)
  | float32
  | float64
deriving DecidableEq, Repr

inductive ValueType where
  | scalar (t : ScalarType)
  | binary
  | object
  | array (element : ScalarType)
deriving DecidableEq, Repr

def ScalarType.name : ScalarType → String
  | bool => "Bool"
  | string => "String"
  | int t => t.name
  | float32 => "Float32"
  | float64 => "Float64"

namespace ValueType

def isScalar : ValueType → Bool
  | scalar _ => true
  | _ => false

def isInteger : ValueType → Bool
  | scalar (.int _) => true
  | _ => false

def isFloat : ValueType → Bool
  | scalar .float32 | scalar .float64 => true
  | _ => false

def isNumeric (t : ValueType) : Bool := t.isInteger || t.isFloat

/-- The type of an array is named after its elements. -/
def name : ValueType → String
  | scalar t => t.name
  | binary => "Binary"
  | object => "Object"
  | array t => t.name ++ "Array"

/-- Why a text names no type. -/
inductive NameError where
  | unknown (name : String)
  | element (t : ValueType)
deriving DecidableEq

def NameError.message : NameError → String
  | unknown name => "Unknown value type: " ++ name
  | element t => "Unsupported array element type: " ++ t.name

/-- The types that are not arrays, by their names. -/
def plain : List (String × ValueType) :=
  [("Bool", scalar .bool), ("String", scalar .string),
   ("Uint8", scalar (.int .uint8)), ("Uint16", scalar (.int .uint16)),
   ("Uint32", scalar (.int .uint32)), ("Uint64", scalar (.int .uint64)),
   ("Int8", scalar (.int .int8)), ("Int16", scalar (.int .int16)),
   ("Int32", scalar (.int .int32)), ("Int64", scalar (.int .int64)),
   ("Float32", scalar .float32), ("Float64", scalar .float64),
   ("Binary", binary), ("Object", object)]

/-- The type of a name from which `arrays` times the word `Array` was taken off. Only scalars
may be elements, so of two the outer one is refused. -/
def ofPlain (name : String) : (arrays : Nat) → Except NameError ValueType
  | 0 =>
    match plain.lookup name with
    | some t => .ok t
    | none => .error (.unknown name)
  | arrays + 1 =>
    match ofPlain name arrays with
    | .ok (.scalar t) => .ok (.array t)
    | .ok t => .error (.element t)
    | .error e => .error e

/-- Takes the word `Array` off the end as often as it stands there. The text and the word are
given from their last letter on. -/
def stripArrays : List Char → Nat × List Char
  | 'y' :: 'a' :: 'r' :: 'r' :: 'A' :: rest =>
    let (n, base) := stripArrays rest
    (n + 1, base)
  | s => (0, s)

def ofName (s : String) : Except NameError ValueType :=
  let (arrays, base) := stripArrays s.toList.reverse
  ofPlain (String.ofList base.reverse) arrays

def decoder : Json.Decoder ValueType := .parsed fun s => (ofName s).toOption

end ValueType

end FieldGateway
