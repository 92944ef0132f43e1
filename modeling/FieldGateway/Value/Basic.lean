import FieldGateway.Value.Type

/-
  Typed values: a type and a thing of that type. Whole numbers are words of the width of their
  type, floating-point numbers are words too, so no bit of a reading is lost.
-/

namespace FieldGateway

open FieldGateway.Floating

/-- What a scalar of a type is. -/
@[reducible] def ScalarType.Carrier : ScalarType → Type
  | bool => Bool
  | string => String
  | int t => BitVec t.width
  | float32 => Single
  | float64 => Double

instance ScalarType.decEqCarrier : (t : ScalarType) → DecidableEq t.Carrier
  | bool => inferInstanceAs (DecidableEq Bool)
  | string => inferInstanceAs (DecidableEq String)
  | int t => inferInstanceAs (DecidableEq (BitVec t.width))
  | float32 => inferInstanceAs (DecidableEq Single)
  | float64 => inferInstanceAs (DecidableEq Double)

inductive Value where
  | scalar (t : ScalarType) (x : t.Carrier)
  | binary (bytes : List UInt8)
  | object (members : List (String × Json))
  | array (element : ScalarType) (items : List element.Carrier)

namespace Value

def type : Value → ValueType
  | scalar t _ => .scalar t
  | binary _ => .binary
  | object _ => .object
  | array t _ => .array t

def bool (b : Bool) : Value := scalar .bool b

def string (s : String) : Value := scalar .string s

def int (t : IntType) (x : BitVec t.width) : Value := scalar (.int t) x

/-- A scalar number as a double. -/
def toDouble? : Value → Option Double
  | scalar (.int t) x => some (Number.ofInt Format.double (t.toInt x))
  | scalar .float32 x => some (Number.convert Format.double x)
  | scalar .float64 x => some x
  | _ => none

/-- The bits of a whole number in a word of 64, the sign of a signed one extended. -/
def toBits? : Value → Option UInt64
  | scalar (.int t) x =>
    some (.ofBitVec (if t.signed then x.signExtend 64 else x.setWidth 64))
  | _ => none

/-- The whole number of a type that has the low bits of a word. -/
def ofBits? : ValueType → UInt64 → Option Value
  | .scalar (.int t), bits => some (int t (bits.toBitVec.setWidth t.width))
  | _, _ => none

def isBinary : Value → Bool
  | binary _ => true
  | _ => false

/-- Equal scalars of one type; floating-point numbers are compared as numbers. -/
def sameScalar : (t : ScalarType) → t.Carrier → t.Carrier → Bool
  | .bool, x, y => x == y
  | .string, x, y => x == y
  | .int _, x, y => x == y
  | .float32, x, y => x.same y
  | .float64, x, y => x.same y

def sameScalars (t : ScalarType) : List t.Carrier → List t.Carrier → Bool
  | [], [] => true
  | x :: xs, y :: ys => sameScalar t x y && sameScalars t xs ys
  | _, _ => false

/-- Equal values of one type; floating-point numbers are compared as numbers, so a NaN makes a
value differ from itself. -/
def same : Value → Value → Bool
  | scalar t x, scalar u y => if h : u = t then sameScalar t x (h ▸ y) else false
  | binary x, binary y => x == y
  | object x, object y => Json.sameMembers x y
  | array t xs, array u ys => if h : u = t then sameScalars t xs (h ▸ ys) else false
  | _, _ => false

end Value

/-- One answer of a driver: a value, and the time and the tags the driver gave it. -/
structure Result where
  value : Value
  origin : Option Int64 := none
  tags : TextMap := ∅

/-- The same values in the same order; times and tags do not count. -/
def sameValues : List Result → List Result → Bool
  | [], [] => true
  | a :: as, b :: bs => a.value.same b.value && sameValues as bs
  | _, _ => false

end FieldGateway
