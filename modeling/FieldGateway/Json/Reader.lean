import FieldGateway.Json.Basic
import FieldGateway.Text.Integer
import FieldGateway.Text.Utf8

/-
  Reading JSON text. `Node.ofText?` accepts exactly the grammar and keeps all that a record
  reader may still want to know: members in their order and as often as they occur, strings and
  numbers that have no value. `Node.ofBytes?` takes bytes, which need not be text throughout.
  `ofNode?` then gives the value, if every part has one and no more than 127 arrays and objects
  lie inside one another; of members with one key the last counts.
-/

namespace FieldGateway.Json

open FieldGateway.Floating FieldGateway.Text

/-- A text that follows the grammar. A string is `none` if an escape in it is half of a pair or a
byte of it is of no character, a number if it is beyond the doubles. -/
inductive Node where
  | null
  | bool (b : Bool)
  | num (n : Option Number)
  | str (s : Option String)
  | arr (items : List Node)
  | obj (members : List (Option String × Node))
deriving Inhabited

/-! ## Strings -/

/-- A part of a string: a character, or the 16-bit unit of an escape. -/
inductive Piece where
  | char (c : Char)
  | unit (n : Nat)
deriving DecidableEq

def hexValue (c : Char) : Option Nat :=
  let n := c.toNat
  if 48 ≤ n ∧ n ≤ 57 then some (n - 48)
  else if 97 ≤ n ∧ n ≤ 102 then some (n - 87)
  else if 65 ≤ n ∧ n ≤ 70 then some (n - 55)
  else none

def readUnit (a b c d : Char) : Option Nat := do
  some ((((← hexValue a) * 16 + (← hexValue b)) * 16 + (← hexValue c)) * 16 + (← hexValue d))

/-- What the letter of a short escape stands for. -/
def shortEscape (c : Char) : Option Char :=
  if c = '"' then some '"'
  else if c = '\\' then some '\\'
  else if c = '/' then some '/'
  else if c = 'b' then some '\x08'
  else if c = 'f' then some '\x0c'
  else if c = 'n' then some '\n'
  else if c = 'r' then some '\r'
  else if c = 't' then some '\t'
  else none

/-- The pieces up to the closing quote, and the rest behind it. -/
def readPieces : List Char → Option (List Piece × List Char)
  | '"' :: rest => some ([], rest)
  | '\\' :: 'u' :: a :: b :: c :: d :: rest => do
    let n ← readUnit a b c d
    let (pieces, rest) ← readPieces rest
    some (.unit n :: pieces, rest)
  | '\\' :: c :: rest => do
    let e ← shortEscape c
    let (pieces, rest) ← readPieces rest
    some (.char e :: pieces, rest)
  | c :: rest =>
    if c.toNat < 0x20 ∨ c = '\\' then none
    else (readPieces rest).map fun p => (.char c :: p.1, p.2)
  | [] => none

def isHighUnit (n : Nat) : Bool := 0xD800 ≤ n && n ≤ 0xDBFF

def isLowUnit (n : Nat) : Bool := 0xDC00 ≤ n && n ≤ 0xDFFF

/-- The characters of the pieces; two units that form a pair make one. -/
def assemble : List Piece → Option (List Char)
  | [] => some []
  | .char c :: rest => (assemble rest).map (c :: ·)
  | .unit h :: .unit l :: rest =>
    if isHighUnit h then
      if isLowUnit l then
        (assemble rest).map (Char.ofNat (0x10000 + (h - 0xD800) * 0x400 + (l - 0xDC00)) :: ·)
      else none
    else if isLowUnit h then none
    else (assemble (.unit l :: rest)).map (Char.ofNat h :: ·)
  | .unit n :: rest =>
    if isHighUnit n || isLowUnit n then none else (assemble rest).map (Char.ofNat n :: ·)

/-! ## Numbers -/

/-- A significand of 64 bits and the power of ten it is to be scaled by. -/
structure Significand where
  value : Nat
  exponent : Int

/-- Whole digits are taken up while they fit; each one dropped raises the exponent. -/
def wholeDigits (value : Nat) : List Char → Significand
  | [] => ⟨value, 0⟩
  | c :: rest =>
    let next := value * 10 + (c.toNat - 48)
    if next ≤ Word.greatest 64 then wholeDigits next rest else ⟨value, (rest.length + 1 : Nat)⟩

/-- Digits behind the point are taken up while they fit and then ignored. -/
def fractionDigits (s : Significand) : List Char → Significand
  | [] => s
  | c :: rest =>
    let next := s.value * 10 + (c.toNat - 48)
    if next ≤ Word.greatest 64 then fractionDigits ⟨next, s.exponent - 1⟩ rest else s

/-- The double nearest to a power of ten. -/
def powerOfTen (k : Nat) : Double := Number.ofRatio Format.double false (tenPow k) 1

/-- A double scaled by a power of ten in one rounded step, after steps of `10 ^ -308` as long as
the exponent is below them; `none` beyond the doubles. -/
def scaleReal (x : Double) (e : Int) : Option Double :=
  if 308 < e then if x.magnitude = 0 then some x else none
  else if 0 ≤ e then
    let y := x.mul (powerOfTen e.toNat)
    if y.isInfinite then none else some y
  else if -308 ≤ e then some (x.div (powerOfTen e.natAbs))
  else if x.magnitude = 0 then some x
  else scaleReal (x.div (powerOfTen 308)) (e + 308)
termination_by e.natAbs
decreasing_by omega

/-- The double of a significand: converted, then scaled. -/
def Significand.real (s : Significand) (negative : Bool) : Option Number :=
  (scaleReal (Number.ofInt Format.double s.value) s.exponent).map fun x =>
    .real (if negative then x.neg else x)

/-- The number of a literal, given by its sign, its whole digits, and what follows them if
anything does. A whole literal of 64 bits stays whole, but `-0` is a double. -/
def literal (negative : Bool) (whole : List Char) (fraction : Option (List Char))
    (exponent : Option (Bool × List Char)) : Option Number :=
  let s := wholeDigits 0 whole
  match fraction, exponent with
  | none, none =>
    if s.exponent ≠ 0 then s.real negative
    else if negative then
      if s.value = 0 ∨ -(s.value : Int) < leastWhole then s.real true
      else some (.whole (-s.value))
    else some (.whole s.value)
  | _, none => (fractionDigits s (fraction.getD [])).real negative
  | _, some (down, digits) =>
    let s := fractionDigits s (fraction.getD [])
    let e := Nat.ofDigitChars 10 digits 0
    if Word.greatestSigned 32 < e then
      if s.value ≠ 0 ∧ ¬ down then none
      else some (.real (Number.ofMagnitude Format.double negative 0))
    else Significand.real ⟨s.value, if down then s.exponent - e else s.exponent + e⟩ negative

/-- Digits with no zero in front of others. -/
def readWhole (s : List Char) : Option (List Char × List Char) :=
  let digits := s.takeWhile Char.isDigit
  match digits with
  | [] => none
  | '0' :: _ :: _ => none
  | _ => some (digits, s.dropWhile Char.isDigit)

def readDigits (s : List Char) : Option (List Char × List Char) :=
  let digits := s.takeWhile Char.isDigit
  if digits = [] then none else some (digits, s.dropWhile Char.isDigit)

/-- A point and the digits behind it, if there is one. -/
def readFraction : List Char → Option (Option (List Char) × List Char)
  | '.' :: s => (readDigits s).map fun p => (some p.1, p.2)
  | s => some (none, s)

/-- A power of ten, if there is one: whether it is negative, and its digits. -/
def readPower : List Char → Option (Option (Bool × List Char) × List Char)
  | c :: s =>
    if c = 'e' ∨ c = 'E' then
      match s with
      | '-' :: s => (readDigits s).map fun p => (some (true, p.1), p.2)
      | '+' :: s => (readDigits s).map fun p => (some (false, p.1), p.2)
      | s => (readDigits s).map fun p => (some (false, p.1), p.2)
    else some (none, c :: s)
  | [] => some (none, [])

def readUnsignedNumber (negative : Bool) (s : List Char) : Option (Node × List Char) := do
  let (whole, s) ← readWhole s
  let (fraction, s) ← readFraction s
  let (power, s) ← readPower s
  some (.num (literal negative whole fraction power), s)

def readNumber : List Char → Option (Node × List Char)
  | '-' :: s => readUnsignedNumber true s
  | s => readUnsignedNumber false s

/-! ## Values -/

/-- Blanks between tokens: space, tab, line feed, carriage return. -/
def isSpace (c : Char) : Bool := c == ' ' || c == '\t' || c == '\n' || c == '\r'

def skip (s : List Char) : List Char := s.dropWhile isSpace

/-- A string behind its opening quote. -/
def readString (s : List Char) : Option (Option String × List Char) :=
  (readPieces s).map fun p => ((assemble p.1).map String.ofList, p.2)

mutual

/-- The value at the head of the text, and the rest. Each call takes a character at least, so
the length of the text is fuel enough. -/
def readNode : Nat → List Char → Option (Node × List Char)
  | 0, _ => none
  | fuel + 1, s =>
    match skip s with
    | 'n' :: 'u' :: 'l' :: 'l' :: r => some (.null, r)
    | 't' :: 'r' :: 'u' :: 'e' :: r => some (.bool true, r)
    | 'f' :: 'a' :: 'l' :: 's' :: 'e' :: r => some (.bool false, r)
    | '"' :: r => (readString r).map fun p => (.str p.1, p.2)
    | '[' :: r =>
      match skip r with
      | ']' :: r => some (.arr [], r)
      | r => do
        let (x, r) ← readNode fuel r
        let (xs, r) ← readItems fuel r
        some (.arr (x :: xs), r)
    | '{' :: r =>
      match skip r with
      | '}' :: r => some (.obj [], r)
      | r => do
        let (m, r) ← readMember fuel r
        let (ms, r) ← readMembers fuel r
        some (.obj (m :: ms), r)
    | r => readNumber r

/-- The items behind the first, and the closing bracket. -/
def readItems : Nat → List Char → Option (List Node × List Char)
  | 0, _ => none
  | fuel + 1, s =>
    match skip s with
    | ']' :: r => some ([], r)
    | ',' :: r => do
      let (x, r) ← readNode fuel r
      let (xs, r) ← readItems fuel r
      some (x :: xs, r)
    | _ => none

/-- A key, a colon, and a value. -/
def readMember : Nat → List Char → Option ((Option String × Node) × List Char)
  | 0, _ => none
  | fuel + 1, s =>
    match skip s with
    | '"' :: r => do
      let (k, r) ← readString r
      match skip r with
      | ':' :: r => do
        let (v, r) ← readNode fuel r
        some ((k, v), r)
      | _ => none
    | _ => none

/-- The members behind the first, and the closing brace. -/
def readMembers : Nat → List Char → Option (List (Option String × Node) × List Char)
  | 0, _ => none
  | fuel + 1, s =>
    match skip s with
    | '}' :: r => some ([], r)
    | ',' :: r => do
      let (m, r) ← readMember fuel r
      let (ms, r) ← readMembers fuel r
      some (m :: ms, r)
    | _ => none

end

/-- One value with nothing but blanks around it. -/
def Node.ofChars? (s : List Char) : Option Node :=
  match readNode (2 * s.length + 2) s with
  | some (n, rest) => if skip rest = [] then some n else none
  | none => none

def Node.ofText? (s : String) : Option Node := Node.ofChars? s.toList

/-- Bytes as characters. A byte of no character becomes a letter and an escape that is half of a
pair: the grammar takes these inside a string alone, and such a string has no value. -/
def charsOfBytes : List UInt8 → List Char
  | [] => []
  | b :: rest =>
    match headUtf8? (b :: rest) with
    | some c => c :: charsOfBytes (rest.drop (c.utf8Size - 1))
    | none => ['x', '\\', 'u', 'd', 'c', '0', '0'] ++ charsOfBytes rest
termination_by bytes => bytes.length
decreasing_by all_goals grind

/-- A text given by its bytes. Bytes that are no text may stand in strings that nobody reads. -/
def Node.ofBytes? (bytes : List UInt8) : Option Node :=
  match ofUtf8? bytes with
  | some s => Node.ofText? s
  | none => Node.ofChars? (charsOfBytes bytes)

theorem Node.ofBytes?_utf8 (s : String) : Node.ofBytes? (utf8 s) = Node.ofText? s := by
  simp [Node.ofBytes?, ofUtf8?_utf8]

/-- How many arrays and objects may lie inside one another. -/
def nestingLimit : Nat := 127

mutual

/-- The value of a node inside which `depth` arrays and objects may still be opened. -/
def ofNode? (depth : Nat) : Node → Option Json
  | .null => some .null
  | .bool b => some (.bool b)
  | .num n => n.map .num
  | .str s => s.map .str
  | .arr xs =>
    match depth with
    | 0 => none
    | depth + 1 => (ofNodes? depth xs).map .arr
  | .obj ms =>
    match depth with
    | 0 => none
    | depth + 1 => (ofMembers? depth ms).map fun es => sortedObj es

def ofNodes? (depth : Nat) : List Node → Option (List Json)
  | [] => some []
  | x :: xs => do
    let y ← ofNode? depth x
    let ys ← ofNodes? depth xs
    some (y :: ys)

def ofMembers? (depth : Nat) : List (Option String × Node) → Option (List (String × Json))
  | [] => some []
  | (k, v) :: ms => do
    let key ← k
    let value ← ofNode? depth v
    let rest ← ofMembers? depth ms
    some ((key, value) :: rest)

end

/-- The value of a text. -/
def ofText? (s : String) : Option Json := do
  ofNode? nestingLimit (← Node.ofText? s)

mutual

/-- A value as a node. -/
def toNode : Json → Node
  | .null => .null
  | .bool b => .bool b
  | .num n => .num (some n)
  | .str s => .str (some s)
  | .arr xs => .arr (toNodes xs)
  | .obj ms => .obj (toMembers ms)

def toNodes : List Json → List Node
  | [] => []
  | x :: xs => toNode x :: toNodes xs

def toMembers : List (String × Json) → List (Option String × Node)
  | [] => []
  | (k, v) :: ms => (some k, toNode v) :: toMembers ms

end

end FieldGateway.Json
