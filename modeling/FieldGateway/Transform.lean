import FieldGateway.Profile.Basic
import FieldGateway.Value.Codec

/-
  From raw device values to presented ones and back. A reading is raised to the power of the
  base, scaled, and offset; a value to be written takes the inverse steps in reverse order. The
  result has to fit the type of the resource. Mappings put one text for another.
-/

namespace FieldGateway

open FieldGateway.Floating

/-- A transformed number that its type cannot hold. -/
inductive TransformError where
  | overflow (value : Double) (type : ValueType)
deriving DecidableEq

def TransformError.message : TransformError → String
  | overflow value type => "transformed value " ++ value.text ++ " overflows " ++ type.name

/-- The numeric steps between raw and presented values. -/
structure TransformEngine where
  /-- A value to be written lies within the limits of its resource. -/
  inRange : Properties → Value → Bool
  /-- Presented to raw. -/
  incoming : Properties → Value → Except TransformError Value
  /-- Raw to presented. -/
  outgoing : Properties → Value → Except TransformError Value

namespace Transform

/-- The greatest single as a double. -/
def greatestSingle : Double :=
  Number.convert Format.double (Number.ofMagnitude Format.single false
    (Format.single.infinityWord - 1))

/-- The least word of a type, as a double. -/
def lowest (t : IntType) : Double := Number.ofInt Format.double t.least

/-- One more than the greatest word of a type: a power of two, so a double even for 64 bits, where
the greatest word is not one. -/
def beyond (t : IntType) : Double :=
  (Number.ofInt Format.double t.greatest).add (Number.ofInt Format.double 1)

/-- The word of a type nearest to the whole part of a double; a NaN counts as zero. -/
def clamp (t : IntType) (v : Double) : BitVec t.width :=
  BitVec.ofInt t.width <|
    match v.decode with
    | .nan => 0
    | .infinite negative => if negative then t.least else t.greatest
    | .finite .. => max t.least (min t.greatest (v.truncate.getD 0))

/-- The value of a type that a number stands for: whole numbers are cut off toward zero. -/
def ofDouble (type : ValueType) (v : Double) : Except TransformError Value :=
  let overflow : Except TransformError Value := .error (.overflow v type)
  if v.isFinite then
    match type with
    | .scalar (.int t) =>
      let whole := v.trunc
      if whole.lt (lowest t) || (beyond t).le whole then overflow
      else .ok (Value.int t (clamp t whole))
    | .scalar .float32 =>
      if greatestSingle.lt v.abs then overflow
      else .ok (.scalar .float32 (Number.convert Format.single v))
    | .scalar .float64 => .ok (.scalar .float64 v)
    | _ => overflow
  else overflow

def isNumeric (p : Properties) : Bool := p.scale.isSome || p.offset.isSome || p.base.isSome

/-- A limit that is not set holds. -/
def inRange (p : Properties) (value : Value) : Bool :=
  match value.toDouble? with
  | none => true
  | some v => p.minimum.all (·.le v) && p.maximum.all v.le

/-- Takes the offset off, divides by the scale unless it is zero, takes the logarithm. -/
def rawNumber (p : Properties) (v : Double) : Double :=
  let v := match p.offset with
    | some offset => v.sub offset
    | none => v
  let v := match p.scale with
    | some scale => if scale.same (Number.ofInt Format.double 0) then v else v.div scale
    | none => v
  match p.base with
  | some base => Double.log v base
  | none => v

/-- Raises the base to the number, multiplies by the scale, adds the offset. -/
def presentedNumber (p : Properties) (v : Double) : Double :=
  let v := match p.base with
    | some base => Double.power base v
    | none => v
  let v := match p.scale with
    | some scale => v.mul scale
    | none => v
  match p.offset with
  | some offset => v.add offset
  | none => v

/-- A numeric step on a scalar number, where the resource has one. -/
def onNumber (step : Properties → Double → Double) (p : Properties) (value : Value) :
    Except TransformError Value :=
  if isNumeric p then
    match value.toDouble? with
    | some v => ofDouble value.type (step p v)
    | none => .ok value
  else .ok value

def incoming : Properties → Value → Except TransformError Value := onNumber rawNumber

def outgoing : Properties → Value → Except TransformError Value := onNumber presentedNumber

/-- Base, scale and offset. -/
def standard : TransformEngine := ⟨inRange, incoming, outgoing⟩

/-- A reading whose text is mapped becomes the text it is mapped to. -/
def mapReading (mappings : TextMap) (value : Value) : Value :=
  if mappings.isEmpty then value
  else match mappings.find? value.encode with
    | some mapped => Value.string mapped
    | none => value

/-- The raw text that is presented as the given one, which stays when there is none. Of several
it is the one that is listed first. -/
def unmap (mappings : TextMap) (raw : String) (listing : mappings.Listing := .sorted mappings) :
    String :=
  match listing.entries.find? fun e => e.2 == raw with
  | some e => e.1
  | none => raw

end Transform

end FieldGateway
