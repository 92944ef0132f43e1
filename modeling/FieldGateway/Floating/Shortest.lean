import FieldGateway.Floating.Rounding

/-
  The fewest decimal digits that read back. The reals that round to a number form an interval
  around it, whose ends belong to it when the mantissa is even. For 1, 2, … digits the two
  decimals of that length around the number are tested against the interval; the first length
  that has one inside wins, and of two inside the nearer.
-/

namespace FieldGateway.Floating

/-- Which of two equally near decimals is taken. -/
inductive Tie where
  | up
  | even
deriving DecidableEq, Repr

/-- `digits · 10 ^ exponent`. -/
structure Decimal where
  digits : Nat
  exponent : Int
deriving DecidableEq, Repr

/-- The numerals of the digits. -/
def Decimal.chars (d : Decimal) : List Char := Nat.toDigits 10 d.digits

/-- The place of the point: the number is `0.d₁d₂… · 10 ^ point`. -/
def Decimal.point (d : Decimal) : Int := d.chars.length + d.exponent

/-- `n · 10 ^ e` for a positive exponent, `n` for a negative one. -/
def scaleTen (n : Nat) (e : Int) : Nat := n * tenPow e.toNat

/-- The least `k` with `n / d < 10 ^ k`, for `n` and `d` positive. -/
def decimalLength (n d : Nat) : Int :=
  let k : Int := ((Nat.toDigits 10 n).length : Int) - (Nat.toDigits 10 d).length
  if scaleTen n (-k) < scaleTen d k then k else k + 1

/-- A positive finite number `mantissa · 2 ^ exponent`, and whether the gap below it is half of
the gap above. -/
structure Interval where
  mantissa : Nat
  exponent : Int
  narrowBelow : Bool
deriving Repr

namespace Interval

/-- The decimal on the grid of `10 ^ k` inside the interval that is nearest to the number.
Everything is counted in a unit in which the number is `n / d` grid steps and a quarter of the
gap above it is `g / d`. -/
def onGrid? (i : Interval) (tie : Tie) (k : Int) : Option Nat :=
  let quarter := i.exponent - 2
  let g := scaleTen (shiftUp 1 quarter) (-k)
  let n := 4 * i.mantissa * g
  let d := scaleTen (shiftUp 1 (-quarter)) k
  let closed := i.mantissa % 2 = 0
  let below := n % d
  let above := d - below
  let reachBelow := if i.narrowBelow then g else 2 * g
  let fitsBelow : Bool := below < reachBelow || (closed && below == reachBelow)
  let fitsAbove : Bool := above < 2 * g || (closed && above == 2 * g)
  let c := n / d
  match fitsBelow, fitsAbove with
  | false, false => none
  | true, false => some c
  | false, true => some (c + 1)
  | true, true =>
    if below < above then some c
    else if above < below then some (c + 1)
    else match tie with
      | .up => some (c + 1)
      | .even => some (c + c % 2)

/-- The first length, from `count` digits on, with a decimal inside. -/
def search (i : Interval) (tie : Tie) (length : Int) : (fuel count : Nat) → Decimal
  | 0, count => ⟨0, length - count⟩
  | fuel + 1, count =>
    match i.onGrid? tie (length - count) with
    | some c => if c = tenPow count then ⟨1, length⟩ else ⟨c, length - count⟩
    | none => i.search tie length fuel (count + 1)

end Interval

/-- The shortest decimal of `m · 2 ^ e`, with `m` positive. A format with `p` mantissa bits
needs at most `p / 3 + 2` digits, since `2 ^ p < 10 ^ (p / 3 + 1)`. -/
def shortest (f : Format) (tie : Tie) (m : Nat) (e : Int) : Decimal :=
  let i : Interval := ⟨m, e, m == twoPow f.fracBits && e != f.minExp⟩
  i.search tie (decimalLength (shiftUp m e) (shiftUp 1 (-e))) (f.fracBits / 3 + 3) 1

end FieldGateway.Floating
