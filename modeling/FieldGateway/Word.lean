/-
  Powers of two and of ten, and the numbers that words of a width hold.
-/

namespace FieldGateway

@[reducible] def twoPow (n : Nat) : Nat := Nat.pow 2 n

@[reducible] def tenPow (n : Nat) : Nat := Nat.pow 10 n

namespace Word

/-- The greatest number without a sign. -/
def greatest (width : Nat) : Nat := twoPow width - 1

/-- The least number with a sign. -/
def leastSigned (width : Nat) : Int := -(twoPow (width - 1) : Nat)

/-- The greatest number with a sign. -/
def greatestSigned (width : Nat) : Int := (twoPow (width - 1) : Nat) - 1

end Word

end FieldGateway
