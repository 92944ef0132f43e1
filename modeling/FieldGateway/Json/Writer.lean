import FieldGateway.Json.Basic
import FieldGateway.Floating.Shortest
import FieldGateway.Text.Integer

/-
  JSON text without blanks. `write` puts a value in front of what follows it, so that reading
  can be stated with the rest of the text in view. Members are written in the order they have.
-/

namespace FieldGateway.Json

open FieldGateway.Floating FieldGateway.Text

def hexDigit (n : Nat) : Char := Nat.digitChar n

/-- A character inside a string. Only quotes, backslashes and characters below the blank are
escaped. -/
def escape (c : Char) : List Char :=
  if c = '"' then ['\\', '"']
  else if c = '\\' then ['\\', '\\']
  else if c = '\x08' then ['\\', 'b']
  else if c = '\x0c' then ['\\', 'f']
  else if c = '\n' then ['\\', 'n']
  else if c = '\r' then ['\\', 'r']
  else if c = '\t' then ['\\', 't']
  else if c.toNat < 0x20 then
    ['\\', 'u', '0', '0', hexDigit (c.toNat / 16), hexDigit (c.toNat % 16)]
  else [c]

def writeChars : List Char → List Char → List Char
  | [], rest => '"' :: rest
  | c :: s, rest => escape c ++ writeChars s rest

def writeString (s : String) (rest : List Char) : List Char := '"' :: writeChars s.toList rest

/-- Digits around their point, at least one on either side, while the number is written out in
full. -/
def plainReal (digits : List Char) (point : Int) : List Char :=
  if point ≤ 0 then '0' :: '.' :: (List.replicate (-point).toNat '0' ++ digits)
  else
    let n := point.toNat
    if digits.length ≤ n then digits ++ List.replicate (n - digits.length) '0' ++ ['.', '0']
    else digits.take n ++ '.' :: digits.drop n

/-- One digit, the others behind a point, and a signed power of ten. -/
def scientificReal (digits : List Char) (point : Int) : List Char :=
  let e := point - 1
  let power := 'e' :: (if e < 0 then '-' else '+') :: natChars e.natAbs
  match digits with
  | [d] => d :: power
  | d :: ds => d :: '.' :: (ds ++ power)
  | [] => power

/-- The shortest digits, written out in full while the point stands at most four zeros before
them or sixteen places behind their start. -/
def realChars (x : Double) : List Char :=
  match x.decode with
  | .finite s m e =>
    let body :=
      if m = 0 then ['0', '.', '0']
      else
        let d := shortest Format.double .even m e
        if -5 < d.point ∧ d.point ≤ 16 then plainReal d.chars d.point
        else scientificReal d.chars d.point
    if s then '-' :: body else body
  | _ => "null".toList

def numberChars : Number → List Char
  | .whole i => intChars i
  | .real x => realChars x

mutual

def write : Json → List Char → List Char
  | .null, rest => 'n' :: 'u' :: 'l' :: 'l' :: rest
  | .bool true, rest => 't' :: 'r' :: 'u' :: 'e' :: rest
  | .bool false, rest => 'f' :: 'a' :: 'l' :: 's' :: 'e' :: rest
  | .num n, rest => numberChars n ++ rest
  | .str s, rest => writeString s rest
  | .arr [], rest => '[' :: ']' :: rest
  | .arr (x :: xs), rest => '[' :: write x (writeItems xs rest)
  | .obj [], rest => '{' :: '}' :: rest
  | .obj ((k, v) :: ms), rest => '{' :: writeString k (':' :: write v (writeMembers ms rest))

/-- The items behind the first, and the closing bracket. -/
def writeItems : List Json → List Char → List Char
  | [], rest => ']' :: rest
  | x :: xs, rest => ',' :: write x (writeItems xs rest)

/-- The members behind the first, and the closing brace. -/
def writeMembers : List (String × Json) → List Char → List Char
  | [], rest => '}' :: rest
  | (k, v) :: ms, rest => ',' :: writeString k (':' :: write v (writeMembers ms rest))

end

def chars (j : Json) : List Char := write j []

def text (j : Json) : String := String.ofList j.chars

end FieldGateway.Json
