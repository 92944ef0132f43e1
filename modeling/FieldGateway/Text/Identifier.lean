/-
  Identifiers of events and readings: 32 hexadecimal digits in groups of 8, 4, 4, 4 and 12.
-/

namespace FieldGateway.Text

/-- The last `count` hexadecimal digits of a number, in front of what follows. -/
def hexTail : (count : Nat) → Nat → List Char → List Char
  | 0, _, rest => rest
  | count + 1, n, rest => hexTail count (n / 16) (Nat.digitChar (n % 16) :: rest)

/-- The identifier with a number; so many numbers later the identifiers begin again. -/
def identifier (n : Nat) : String :=
  String.ofList <|
    hexTail 8 (n >>> 96) <| '-' :: hexTail 4 (n >>> 80) ('-' :: hexTail 4 (n >>> 64)
      ('-' :: hexTail 4 (n >>> 48) ('-' :: hexTail 12 n [])))

end FieldGateway.Text
