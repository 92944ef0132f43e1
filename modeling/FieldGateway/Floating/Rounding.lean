import FieldGateway.Floating.Format

/-
  Rounding a ratio to the nearest number of a format, a half to the even neighbour. Whole
  numbers, decimal texts, sums, products and quotients all come to a word through `ofRatio`.
-/

namespace FieldGateway.Floating

/-- `n · 2 ^ e` for a positive exponent, `n` for a negative one. -/
def shiftUp (n : Nat) (e : Int) : Nat := n * twoPow e.toNat

/-- The whole number nearest to `n / d`, a half going to the even neighbour. -/
def nearest (n d : Nat) : Nat :=
  let q := n / d
  let r := n % d
  if d < 2 * r ∨ (2 * r = d ∧ q % 2 = 1) then q + 1 else q

/-- The largest `k` with `2 ^ k ≤ n / d`, for `n` and `d` positive. -/
def floorLog (n d : Nat) : Int :=
  let k : Int := (n.log2 : Int) - d.log2
  if shiftUp d k ≤ shiftUp n (-k) then k else k - 1

namespace Number

/-- The unit of the format in which `n / d` is counted before rounding. -/
def unitExp (f : Format) (n d : Nat) : Int := max (floorLog n d - f.fracBits) f.minExp

/-- The magnitude nearest to `n / d`. Counting in units of `2 ^ e`, the word is the count plus
`2 ^ fracBits` for each step of `e` above the least; a carry moves to the next binade by itself,
and what passes the last number is infinite. -/
def magnitudeOfRatio (f : Format) (n d : Nat) : Nat :=
  if n = 0 then 0
  else
    let e := unitExp f n d
    min ((e - f.minExp).toNat * twoPow f.fracBits + nearest (shiftUp n (-e)) (shiftUp d e))
      f.infinityWord

/-- The number nearest to `± n / d`. -/
def ofRatio (f : Format) (negative : Bool) (n d : Nat) : Number f :=
  ofMagnitude f negative (magnitudeOfRatio f n d)

/-- The number nearest to `± m · 2 ^ e`. -/
def ofScaled (f : Format) (negative : Bool) (m : Nat) (e : Int) : Number f :=
  ofRatio f negative (shiftUp m e) (shiftUp 1 (-e))

/-- The number nearest to a whole number; zero is positive. -/
def ofInt (f : Format) (i : Int) : Number f := ofRatio f (i < 0) i.natAbs 1

/-- The same number in another format, rounded if it has to be. -/
def convert {f : Format} (g : Format) (x : Number f) : Number g :=
  match x.decode with
  | .nan => nan g
  | .infinite s => infinity g s
  | .finite s m e => ofScaled g s m e

end Number

end FieldGateway.Floating
