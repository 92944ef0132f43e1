import FieldGateway.Floating.Arithmetic
import FieldGateway.Floating.Shortest
import FieldGateway.Text.Integer

/-
  Floating-point numbers as text: the positional form of readings, and the reader, which takes
  a decimal in positional or scientific form or the name of an infinity or a NaN and rounds it
  once.
-/

namespace FieldGateway.Floating

open FieldGateway.Text

/-- Digits written around their point, `0.` or trailing zeros filled in; a whole number has no
point. -/
def positional (digits : List Char) (point : Int) : List Char :=
  if point ≤ 0 then '0' :: '.' :: (List.replicate (-point).toNat '0' ++ digits)
  else
    let n := point.toNat
    if digits.length ≤ n then digits ++ List.replicate (n - digits.length) '0'
    else digits.take n ++ '.' :: digits.drop n

namespace Number

variable {f : Format}

/-- The text of a reading: shortest digits, never an exponent. -/
def chars (x : Number f) : List Char :=
  match x.decode with
  | .nan => "NaN".toList
  | .infinite s => if s then "-inf".toList else "inf".toList
  | .finite s m e =>
    let body :=
      if m = 0 then ['0']
      else
        let d := shortest f .up m e
        positional d.chars d.point
    if s then '-' :: body else body

def text (x : Number f) : String := String.ofList x.chars

end Number

/-- A decimal as written: all digits as one number, and the power of ten that places the point. -/
structure Written where
  digits : Nat
  exponent : Int
deriving DecidableEq, Repr

/-- An exponent: a mark, a sign if wanted, digits. Nothing at all stands for zero. -/
def readExponent : List Char → Option Int
  | [] => some 0
  | c :: s => if c = 'e' ∨ c = 'E' then readSigned s else none

/-- Digits with at most one point, at least one digit in all, and an exponent if wanted. -/
def readDecimal (s : List Char) : Option Written :=
  let whole := s.takeWhile Char.isDigit
  let rest := s.dropWhile Char.isDigit
  let (fraction, rest) :=
    match rest with
    | '.' :: r => (r.takeWhile Char.isDigit, r.dropWhile Char.isDigit)
    | r => ([], r)
  let digits := whole ++ fraction
  if digits = [] then none
  else (readExponent rest).map fun e => ⟨Nat.ofDigitChars 10 digits 0, e - fraction.length⟩

namespace Written

/-- The number nearest to a written decimal. A decimal above `10 ^ 400` is beyond every format,
one below `10 ^ -400` nearer to zero than to any other number. -/
def toNumber (f : Format) (negative : Bool) (w : Written) : Number f :=
  let length := (Nat.toDigits 10 w.digits).length + w.exponent
  if w.digits = 0 ∨ length < -400 then Number.ofMagnitude f negative 0
  else if 400 < length then Number.infinity f negative
  else Number.ofRatio f negative (scaleTen w.digits w.exponent) (scaleTen 1 (-w.exponent))

end Written

/-- An unsigned number: a decimal, or a name in any letter case. -/
def readMagnitude (f : Format) (negative : Bool) (s : List Char) : Option (Number f) :=
  let name := s.map lowerChar
  if name = "inf".toList ∨ name = "infinity".toList then some (Number.infinity f negative)
  else if name = "nan".toList then
    some (if negative then (Number.nan f).neg else Number.nan f)
  else (readDecimal s).map (Written.toNumber f negative)

/-- A number with an optional sign. -/
def readNumber (f : Format) : List Char → Option (Number f)
  | '+' :: s => readMagnitude f false s
  | '-' :: s => readMagnitude f true s
  | s => readMagnitude f false s

end FieldGateway.Floating
