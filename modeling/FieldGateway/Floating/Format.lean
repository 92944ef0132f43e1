import FieldGateway.Word

/-
  Binary floating point as bit patterns: a format gives the widths of the exponent and fraction
  fields, a number is its word, and `decode` says which number a word stands for. NaNs keep
  their payload, since a value read from a device may carry one.
-/

namespace FieldGateway.Floating

/-- The widths of the two fields behind the sign bit. -/
structure Format where
  expBits : Nat
  fracBits : Nat
deriving DecidableEq, Repr

namespace Format

def double : Format := ⟨11, 52⟩

def single : Format := ⟨8, 23⟩

/-- Sign, exponent and fraction together. -/
@[reducible] def width (f : Format) : Nat := 1 + f.expBits + f.fracBits

/-- The exponent of the unit in which the smallest numbers are counted. -/
def minExp (f : Format) : Int := 2 - twoPow (f.expBits - 1) - f.fracBits

/-- The word of positive infinity: every smaller word is a finite non-negative number. -/
def infinityWord (f : Format) : Nat := (twoPow f.expBits - 1) * twoPow f.fracBits

end Format

/-- A word of a format. -/
structure Number (f : Format) where
  word : BitVec f.width
deriving DecidableEq, Repr

abbrev Double := Number Format.double

abbrev Single := Number Format.single

/-- What a word stands for; a finite number is `± mantissa · 2 ^ exponent`. -/
inductive Datum where
  | nan
  | infinite (negative : Bool)
  | finite (negative : Bool) (mantissa : Nat) (exponent : Int)
deriving DecidableEq, Repr

namespace Number

variable {f : Format}

/-- The word without its sign bit. -/
def magnitude (x : Number f) : Nat := x.word.toNat % twoPow (f.expBits + f.fracBits)

def negative (x : Number f) : Bool := x.word.msb

def decode (x : Number f) : Datum :=
  let exponent := x.magnitude / twoPow f.fracBits
  let fraction := x.magnitude % twoPow f.fracBits
  if exponent = twoPow f.expBits - 1 then
    if fraction = 0 then .infinite x.negative else .nan
  else if exponent = 0 then .finite x.negative fraction f.minExp
  else .finite x.negative (twoPow f.fracBits + fraction) (f.minExp + (exponent - 1 : Nat))

/-- The word with the given sign and magnitude. -/
def ofMagnitude (f : Format) (negative : Bool) (magnitude : Nat) : Number f :=
  ⟨BitVec.ofNat f.width
    (if negative then twoPow (f.expBits + f.fracBits) + magnitude else magnitude)⟩

/-- The quiet NaN without payload. -/
def nan (f : Format) : Number f :=
  ofMagnitude f false (f.infinityWord + twoPow (f.fracBits - 1))

def infinity (f : Format) (negative : Bool) : Number f := ofMagnitude f negative f.infinityWord

def isNaN (x : Number f) : Bool := x.decode == .nan

def isFinite (x : Number f) : Bool :=
  match x.decode with
  | .finite .. => true
  | _ => false

def isInfinite (x : Number f) : Bool :=
  match x.decode with
  | .infinite _ => true
  | _ => false

end Number

end FieldGateway.Floating
