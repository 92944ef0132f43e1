/-
  Base 64 with the standard alphabet. Bytes have one text: the last group is filled up with
  `=`, and the bits it leaves over are zero. Any other text is refused.
-/

namespace FieldGateway.Text.Base64

/-- The digit of a number below 64. -/
def digit (n : Nat) : Char :=
  if n < 26 then Char.ofNat (65 + n)
  else if n < 52 then Char.ofNat (97 + (n - 26))
  else if n < 62 then Char.ofNat (48 + (n - 52))
  else if n = 62 then '+' else '/'

def digitValue (c : Char) : Option Nat :=
  let n := c.toNat
  if 65 ≤ n ∧ n ≤ 90 then some (n - 65)
  else if 97 ≤ n ∧ n ≤ 122 then some (n - 97 + 26)
  else if 48 ≤ n ∧ n ≤ 57 then some (n - 48 + 52)
  else if c = '+' then some 62
  else if c = '/' then some 63
  else none

def encode : List UInt8 → List Char
  | [] => []
  | [a] =>
    let n := a.toNat * 16
    [digit (n / 64), digit (n % 64), '=', '=']
  | [a, b] =>
    let n := (a.toNat * 256 + b.toNat) * 4
    [digit (n / 4096), digit (n / 64 % 64), digit (n % 64), '=']
  | a :: b :: c :: rest =>
    let n := (a.toNat * 256 + b.toNat) * 256 + c.toNat
    digit (n / 262144) :: digit (n / 4096 % 64) :: digit (n / 64 % 64) :: digit (n % 64) ::
      encode rest

def byte (n : Nat) : UInt8 := UInt8.ofNat n

def decode : List Char → Option (List UInt8)
  | [] => some []
  | [a, b, '=', '='] => do
    let n := (← digitValue a) * 64 + (← digitValue b)
    if n % 16 = 0 then some [byte (n / 16)] else none
  | [a, b, c, '='] => do
    let n := ((← digitValue a) * 64 + (← digitValue b)) * 64 + (← digitValue c)
    if n % 4 = 0 then some [byte (n / 1024), byte (n / 4 % 256)] else none
  | a :: b :: c :: d :: rest => do
    let n := (((← digitValue a) * 64 + (← digitValue b)) * 64 + (← digitValue c)) * 64 +
      (← digitValue d)
    let more ← decode rest
    some (byte (n / 65536) :: byte (n / 256 % 256) :: byte (n % 256) :: more)
  | _ => none

theorem digitValue_digit : ∀ n < 64, digitValue (digit n) = some n := by decide

/-- No digit is the filler. -/
theorem digit_ne_filler : ∀ n < 64, digit n ≠ '=' := by decide

theorem byte_toNat (a : UInt8) : byte a.toNat = a := UInt8.ofNat_toNat

end FieldGateway.Text.Base64
