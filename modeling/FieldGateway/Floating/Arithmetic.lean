import FieldGateway.Floating.Rounding

/-
  Exact arithmetic on words: order, truncation, and the four operations, each of them the exact
  result rounded once. Logarithm and power are the machine's.
-/

namespace FieldGateway.Floating

namespace Datum

/-- A finite datum counted in units of `2 ^ e`, for `e` at most its exponent. -/
def signed (negative : Bool) (m : Nat) (exponent e : Int) : Int :=
  let n : Int := shiftUp m (exponent - e)
  if negative then -n else n

/-- The order of two data as numbers: zeros are equal, a NaN is beside every order. -/
def compare? : Datum → Datum → Option Ordering
  | .nan, _ => none
  | _, .nan => none
  | .infinite s, .infinite t => some (if s = t then .eq else if s then .lt else .gt)
  | .infinite s, .finite .. => some (if s then .lt else .gt)
  | .finite .., .infinite t => some (if t then .gt else .lt)
  | .finite s m e, .finite t n d =>
    some (compare (signed s m e (min e d)) (signed t n d (min e d)))

end Datum

namespace Number

variable {f : Format}

def le (x y : Number f) : Bool :=
  match x.decode.compare? y.decode with
  | some .lt | some .eq => true
  | _ => false

def lt (x y : Number f) : Bool := x.decode.compare? y.decode == some .lt

/-- Equal as numbers: `0 = -0`, and a NaN equals nothing. -/
def same (x y : Number f) : Bool := x.decode.compare? y.decode == some .eq

def neg (x : Number f) : Number f := ⟨x.word ^^^ BitVec.twoPow f.width (f.width - 1)⟩

def abs (x : Number f) : Number f := ofMagnitude f false x.magnitude

/-- The whole part of a finite number, toward zero. -/
def truncate (x : Number f) : Option Int :=
  match x.decode with
  | .finite s m e =>
    let n : Int := shiftUp m e / shiftUp 1 (-e)
    some (if s then -n else n)
  | _ => none

/-- The whole part as a number, with the sign of the number; what is not finite stays. -/
def trunc (x : Number f) : Number f :=
  match x.decode with
  | .finite s m e => ofRatio f s (shiftUp m e / shiftUp 1 (-e)) 1
  | _ => x

/-- A sum that cancels is `+0` unless both terms are negative zeros. -/
def add (x y : Number f) : Number f :=
  match x.decode, y.decode with
  | .nan, _ | _, .nan => nan f
  | .infinite s, .infinite t => if s = t then infinity f s else nan f
  | .infinite s, .finite .. | .finite .., .infinite s => infinity f s
  | .finite s m e, .finite t n d =>
    let u := min e d
    let sum := Datum.signed s m e u + Datum.signed t n d u
    if sum = 0 then ofScaled f (s && t && m == 0 && n == 0) 0 u
    else ofScaled f (sum < 0) sum.natAbs u

def sub (x y : Number f) : Number f := x.add y.neg

def mul (x y : Number f) : Number f :=
  match x.decode, y.decode with
  | .nan, _ | _, .nan => nan f
  | .infinite s, .infinite t => infinity f (s != t)
  | .infinite s, .finite t m _ | .finite t m _, .infinite s =>
    if m = 0 then nan f else infinity f (s != t)
  | .finite s m e, .finite t n d => ofScaled f (s != t) (m * n) (e + d)

def div (x y : Number f) : Number f :=
  match x.decode, y.decode with
  | .nan, _ | _, .nan => nan f
  | .infinite _, .infinite _ => nan f
  | .infinite s, .finite t .. => infinity f (s != t)
  | .finite s .., .infinite t => ofMagnitude f (s != t) 0
  | .finite s m e, .finite t n d =>
    if n = 0 then if m = 0 then nan f else infinity f (s != t)
    else ofRatio f (s != t) (shiftUp m (e - d)) (shiftUp n (d - e))

end Number

namespace Double

def toMachine (x : Double) : Float := Float.ofBits (UInt64.ofBitVec x.word)

def ofMachine (x : Float) : Double := ⟨x.toBits.toBitVec⟩

/-- The logarithm of `x` to the base `b`, as the quotient of two natural logarithms. -/
def log (x b : Double) : Double :=
  (ofMachine x.toMachine.log).div (ofMachine b.toMachine.log)

/-- `b` to the power `x`. -/
def power (b x : Double) : Double := ofMachine (b.toMachine ^ x.toMachine)

end Double

end FieldGateway.Floating
