import FieldGateway.Json.Reader

/-
  Bytes and words in hexadecimal digits, lower case when written, either case when read.
-/

namespace FieldGateway.Text

def hexByte (b : UInt8) : List Char := [Nat.digitChar (b.toNat / 16), Nat.digitChar (b.toNat % 16)]

def hexText (bytes : List UInt8) : String := String.ofList (bytes.flatMap hexByte)

/-- Two digits for each byte. -/
def readHex : List Char → Option (List UInt8)
  | [] => some []
  | a :: b :: rest => do
    let high ← Json.hexValue a
    let low ← Json.hexValue b
    let bytes ← readHex rest
    some (UInt8.ofNat (high * 16 + low) :: bytes)
  | _ => none

/-- A word in so many digits, behind `0x`. -/
def hexWord (digits n : Nat) : String :=
  String.ofList ('0' :: 'x' :: (List.replicate (digits - (Nat.toDigits 16 n).length) '0' ++
    Nat.toDigits 16 n))

def readHexWord : List Char → Option Nat
  | '0' :: 'x' :: digits =>
    digits.foldlM (fun n c => (Json.hexValue c).map fun v => n * 16 + v) 0
  | _ => none

end FieldGateway.Text
