import FieldGateway.Value.Basic

/-
  Masks over registers of 64 bits: a write through a mask changes the masked bits of the current
  register and keeps the others, a reading shows the masked bits alone.
-/

namespace FieldGateway

/-- The bits that a write may change. -/
structure Mask where
  bits : UInt64
deriving DecidableEq, Repr

namespace Mask

/-- The bits that a write keeps. -/
def keep (m : Mask) : UInt64 := ~~~ m.bits

/-- The register after `value` was written over `current`. -/
def merge (m : Mask) (current value : UInt64) : UInt64 :=
  (current &&& m.keep) ||| (value &&& m.bits)

def read (m : Mask) (value : UInt64) : UInt64 := value &&& m.bits

/-- The merge of two whole numbers, as a value of the second one's type. -/
def mergeValues (m : Mask) (current value : Value) : Option Value := do
  let c ← current.toBits?
  let v ← value.toBits?
  Value.ofBits? value.type (m.merge c v)

/-- The masked bits of a whole number. -/
def readValue (m : Mask) (value : Value) : Option Value := do
  let v ← value.toBits?
  Value.ofBits? value.type (m.read v)

end Mask

end FieldGateway
