import FieldGateway.Floating.Text
import FieldGateway.Json.Reader
import FieldGateway.Toml.Basic

/-
  Reading TOML. A document is read line by line: blank lines and comments, headers, and keys
  with their values. `none` stands for every fault.
-/

namespace FieldGateway.Toml

open FieldGateway.Text

/-! ## Blanks and comments -/

def isWhite (c : Char) : Bool := c == ' ' || c == '\t'

def skipWhite (s : List Char) : List Char := s.dropWhile isWhite

/-- A character that may stand in a comment or, unescaped, in a string. -/
def isPrintable (c : Char) : Bool := c == '\t' || (0x20 ≤ c.toNat && c.toNat != 0x7f)

/-- The rest behind a line break, if there is one. -/
def lineBreak? : List Char → Option (List Char)
  | '\n' :: s => some s
  | '\r' :: '\n' :: s => some s
  | _ => none

/-- The rest behind a comment. -/
def skipComment : List Char → List Char
  | '#' :: s => s.dropWhile isPrintable
  | s => s

/-- The rest behind blanks, comments and line breaks. -/
def skipLines : (fuel : Nat) → List Char → List Char
  | 0, s => s
  | fuel + 1, s =>
    let s := skipComment (skipWhite s)
    match lineBreak? s with
    | some s => skipLines fuel s
    | none => s

/-- The rest behind blanks and line breaks. -/
def skipBreaks : (fuel : Nat) → List Char → List Char
  | 0, s => s
  | fuel + 1, s =>
    let s := skipWhite s
    match lineBreak? s with
    | some s => skipBreaks fuel s
    | none => s

/-- The rest behind the end of a line. -/
def endLine (s : List Char) : Option (List Char) :=
  match skipComment (skipWhite s) with
  | [] => some []
  | s => lineBreak? s

/-! ## Strings -/

/-- The character with that number, if there is one. -/
def charOfCode? (n : Nat) : Option Char :=
  if n < 0xD800 ∨ (0xDFFF < n ∧ n < 0x110000) then some (Char.ofNat n) else none

/-- So many hexadecimal digits. -/
def readHex : (digits : Nat) → Nat → List Char → Option (Nat × List Char)
  | 0, n, s => some (n, s)
  | digits + 1, n, c :: s => do readHex digits (n * 16 + (← Json.hexValue c)) s
  | _, _, [] => none

/-- The character of an escape, given behind its backslash. -/
def readEscape : List Char → Option (Char × List Char)
  | 'b' :: s => some ('\x08', s)
  | 't' :: s => some ('\t', s)
  | 'n' :: s => some ('\n', s)
  | 'f' :: s => some ('\x0c', s)
  | 'r' :: s => some ('\r', s)
  | '"' :: s => some ('"', s)
  | '\\' :: s => some ('\\', s)
  | 'u' :: s => do
    let (n, s) ← readHex 4 0 s
    some ((← charOfCode? n), s)
  | 'U' :: s => do
    let (n, s) ← readHex 8 0 s
    some ((← charOfCode? n), s)
  | _ => none

/-- A string behind its quote, escapes being read between double quotes. -/
def readQuoted (quote : Char) : (fuel : Nat) → List Char → Option (List Char × List Char)
  | 0, _ => none
  | fuel + 1, s =>
    match s with
    | [] => none
    | c :: s =>
      if c = quote then some ([], s)
      else if c = '\\' ∧ quote = '"' then do
        let (e, s) ← readEscape s
        let (cs, s) ← readQuoted quote fuel s
        some (e :: cs, s)
      else if isPrintable c then do
        let (cs, s) ← readQuoted quote fuel s
        some (c :: cs, s)
      else none

/-- How many quotes the text begins with. -/
def countQuotes (quote : Char) (s : List Char) : Nat := (s.takeWhile (· == quote)).length

/-- A string of several lines behind its three quotes. A backslash at the end of a line takes
away the break and the blanks behind it; up to two quotes may stand before the closing three. -/
def readBlock (quote : Char) : (fuel : Nat) → List Char → Option (List Char × List Char)
  | 0, _ => none
  | fuel + 1, s =>
    let n := countQuotes quote s
    if 3 ≤ n then
      if 5 < n then none else some (List.replicate (n - 3) quote, s.drop n)
    else if 0 < n then do
      let (cs, s) ← readBlock quote fuel (s.drop n)
      some (List.replicate n quote ++ cs, s)
    else match s with
      | [] => none
      | c :: rest =>
        match lineBreak? s with
        | some s => do
          let (cs, s) ← readBlock quote fuel s
          some ('\n' :: cs, s)
        | none =>
          if c = '\\' ∧ quote = '"' then
            match lineBreak? (skipWhite rest) with
            | some s => readBlock quote fuel (skipBreaks (s.length + 1) s)
            | none => do
              let (e, s) ← readEscape rest
              let (cs, s) ← readBlock quote fuel s
              some (e :: cs, s)
          else if isPrintable c then do
            let (cs, s) ← readBlock quote fuel rest
            some (c :: cs, s)
          else none

/-- A string of several lines, a line break right behind the quotes left out. -/
def readBlockBody (quote : Char) (s : List Char) : Option (List Char × List Char) :=
  readBlock quote (s.length + 1) ((lineBreak? s).getD s)

/-! ## Keys -/

def isBare (c : Char) : Bool := c.isAlphanum || c == '_' || c == '-'

def readKeyPart : List Char → Option (String × List Char)
  | '"' :: s => (readQuoted '"' (s.length + 1) s).map fun p => (String.ofList p.1, p.2)
  | '\'' :: s => (readQuoted '\'' (s.length + 1) s).map fun p => (String.ofList p.1, p.2)
  | s =>
    let name := s.takeWhile isBare
    if name = [] then none else some (String.ofList name, s.dropWhile isBare)

/-- The parts of a dotted key, blanks around the dots. -/
def readKey : (fuel : Nat) → List Char → Option (List String × List Char)
  | 0, _ => none
  | fuel + 1, s => do
    let (part, s) ← readKeyPart (skipWhite s)
    match skipWhite s with
    | '.' :: s =>
      let (parts, s) ← readKey fuel s
      some (part :: parts, s)
    | s => some ([part], s)

/-! ## Numbers and times -/

/-- The digits of a number without the underscores between them. -/
def digitsOf (isDigit : Char → Bool) : (afterDigit : Bool) → List Char → Option (List Char)
  | afterDigit, [] => if afterDigit then some [] else none
  | afterDigit, c :: s =>
    if isDigit c then (digitsOf isDigit true s).map (c :: ·)
    else if c = '_' ∧ afterDigit then digitsOf isDigit false s
    else none

def digitsIn (base : Nat) (c : Char) : Bool :=
  match Json.hexValue c with
  | some n => n < base
  | none => false

def readBase (base : Nat) (s : List Char) : Option Int := do
  let digits ← digitsOf (digitsIn base) false s
  let n ← digits.foldlM (fun n c => (Json.hexValue c).map (n * base + ·)) 0
  if n ≤ Word.greatestSigned 64 then some n else none

/-- A sign, and what stands behind it. -/
def splitSign : List Char → Bool × List Char
  | '-' :: s => (true, s)
  | '+' :: s => (false, s)
  | s => (false, s)

/-- Decimal digits with no zero in front of others. -/
def plainDigits (s : List Char) : Option (List Char) := do
  let digits ← digitsOf Char.isDigit false s
  match digits with
  | '0' :: _ :: _ => none
  | _ => some digits

def wholeOf (s : List Char) : Option Int :=
  match s with
  | '0' :: 'x' :: s => readBase 16 s
  | '0' :: 'o' :: s => readBase 8 s
  | '0' :: 'b' :: s => readBase 2 s
  | s => do
    let (negative, s) := splitSign s
    let n := Nat.ofDigitChars 10 (← plainDigits s) 0
    let i : Int := if negative then -n else n
    if Word.leastSigned 64 ≤ i ∧ i ≤ Word.greatestSigned 64 then some i else none

/-- A number with a fraction or an exponent, or the name of one; without its underscores. -/
def realOf (s : List Char) : Option (List Char) := do
  let (negative, body) := splitSign s
  let sign := if negative then ['-'] else []
  if body = "inf".toList ∨ body = "nan".toList then some (sign ++ body)
  else
    let isMark (c : Char) : Bool := c == 'e' || c == 'E'
    let mantissa := body.takeWhile (!isMark ·)
    let power := body.dropWhile (!isMark ·)
    let whole ← plainDigits (mantissa.takeWhile (· != '.'))
    let fraction ← match mantissa.dropWhile (· != '.') with
      | [] => some []
      | _ :: f => (digitsOf Char.isDigit false f).map ('.' :: ·)
    let exponent ← match power with
      | [] => some []
      | _ :: p =>
        let (down, p) := splitSign p
        (digitsOf Char.isDigit false p).map fun d => 'e' :: (if down then '-' :: d else d)
    if fraction = [] ∧ exponent = [] then none
    else
      let text := sign ++ whole ++ fraction ++ exponent
      let x ← Floating.readNumber Floating.Format.double text
      if x.isInfinite ∧ ¬ negative then none else some text

/-- Two digits within bounds. -/
def twoDigits (least greatest : Nat) : List Char → Option (Nat × List Char)
  | a :: b :: s =>
    if a.isDigit ∧ b.isDigit then
      let n := (a.toNat - 48) * 10 + (b.toNat - 48)
      if least ≤ n ∧ n ≤ greatest then some (n, s) else none
    else none
  | _ => none

def isLeapYear (y : Nat) : Bool := y % 4 = 0 && (y % 100 ≠ 0 || y % 400 = 0)

def daysOf (year month : Nat) : Nat :=
  if month = 2 then if isLeapYear year then 29 else 28
  else if [4, 6, 9, 11].contains month then 30 else 31

/-- The rest behind a date. -/
def skipDate (s : List Char) : Option (List Char) := do
  let (century, s) ← twoDigits 0 99 s
  let (year, s) ← twoDigits 0 99 s
  match s with
  | '-' :: s =>
    let (month, s) ← twoDigits 1 12 s
    match s with
    | '-' :: s =>
      let (_, s) ← twoDigits 1 (daysOf (century * 100 + year) month) s
      some s
    | _ => none
  | _ => none

/-- The rest behind a time of day. -/
def skipTime (s : List Char) : Option (List Char) := do
  let (_, s) ← twoDigits 0 23 s
  match s with
  | ':' :: s =>
    let (_, s) ← twoDigits 0 59 s
    match s with
    | ':' :: s =>
      let (_, s) ← twoDigits 0 60 s
      match s with
      | '.' :: s =>
        let digits := s.takeWhile Char.isDigit
        if digits = [] then none else some (s.dropWhile Char.isDigit)
      | s => some s
    | _ => none
  | _ => none

/-- An offset from universal time, if any. -/
def isOffset : List Char → Bool
  | [] => true
  | ['Z'] | ['z'] => true
  | c :: s =>
    (c == '+' || c == '-') &&
      match twoDigits 0 23 s with
      | some (_, ':' :: s) =>
        match twoDigits 0 59 s with
        | some (_, []) => true
        | _ => false
      | _ => false

def isTime (s : List Char) : Bool :=
  match skipDate s with
  | some [] => true
  | some (c :: r) =>
    (c == 'T' || c == 't' || c == ' ') &&
      match skipTime r with
      | some r => isOffset r
      | none => false
  | none => skipTime s == some []

/-- The value that a word without quotes stands for. -/
def ofWord (s : List Char) : Option Toml :=
  if s = "true".toList then some (.bool true)
  else if s = "false".toList then some (.bool false)
  else match wholeOf s with
    | some i => some (.whole i)
    | none => ((realOf s).map .real).or (if isTime s then some (.time s) else none)

def isWordChar (c : Char) : Bool :=
  c.isAlphanum || c == '+' || c == '-' || c == '_' || c == '.' || c == ':'

/-- A word, and the rest. A blank between a date and a time of day belongs to it. -/
def takeWord (s : List Char) : List Char × List Char :=
  let word := s.takeWhile isWordChar
  let rest := s.dropWhile isWordChar
  match skipDate word, rest with
  | some [], ' ' :: c :: r =>
    if c.isDigit then
      (word ++ ' ' :: (c :: r).takeWhile isWordChar, (c :: r).dropWhile isWordChar)
    else (word, rest)
  | _, _ => (word, rest)

/-! ## Values and documents -/

/-- How many arrays and tables in braces may lie inside one another. -/
def nestingLimit : Nat := 79

/-- The last part of a key and the parts in front; a key has no more parts than values nest. -/
def splitKey (parts : List String) : Option (List String × String) :=
  if nestingLimit < parts.length then none
  else parts.getLast?.map fun last => (parts.dropLast, last)

mutual

/-- A value. The length of the text is fuel enough, since each call takes a character. -/
def readValue : (fuel depth : Nat) → List Char → Option (Toml × List Char)
  | 0, _, _ => none
  | fuel + 1, depth, s =>
    match s with
    | '"' :: '"' :: '"' :: s => (readBlockBody '"' s).map fun p => (.str (String.ofList p.1), p.2)
    | '\'' :: '\'' :: '\'' :: s =>
      (readBlockBody '\'' s).map fun p => (.str (String.ofList p.1), p.2)
    | '"' :: s => (readQuoted '"' (s.length + 1) s).map fun p => (.str (String.ofList p.1), p.2)
    | '\'' :: s =>
      (readQuoted '\'' (s.length + 1) s).map fun p => (.str (String.ofList p.1), p.2)
    | '[' :: s =>
      match depth with
      | 0 => none
      | depth + 1 => (readItems fuel depth s).map fun p => (.arr p.1, p.2)
    | '{' :: s =>
      match depth with
      | 0 => none
      | depth + 1 =>
        match skipWhite s with
        | '}' :: s => some (.table .inline [], s)
        | s => (readFields fuel depth [] s).map fun p => (.table .inline p.1, p.2)
    | s => do
      let (word, s) := takeWord s
      some ((← ofWord word), s)

/-- The items of an array and its closing bracket; a comma may follow the last one. -/
def readItems : (fuel depth : Nat) → List Char → Option (List Toml × List Char)
  | 0, _, _ => none
  | fuel + 1, depth, s =>
    match skipLines s.length s with
    | ']' :: s => some ([], s)
    | s => do
      let (x, s) ← readValue fuel depth s
      match skipLines s.length s with
      | ',' :: s =>
        let (xs, s) ← readItems fuel depth s
        some (x :: xs, s)
      | ']' :: s => some ([x], s)
      | _ => none

/-- The fields of a table in braces, on one line, and its closing brace. -/
def readFields : (fuel depth : Nat) → Entries → List Char → Option (Entries × List Char)
  | 0, _, _, _ => none
  | fuel + 1, depth, entries, s => do
    let (parts, s) ← readKey (s.length + 1) s
    let (path, key) ← splitKey parts
    match s with
    | '=' :: s =>
      let (value, s) ← readValue fuel depth (skipWhite s)
      let entries ← insert path key value .headed entries
      match skipWhite s with
      | ',' :: s => readFields fuel depth entries s
      | '}' :: s => some (entries, s)
      | _ => none
    | _ => none

end

/-- A document read so far, and the path of the table that keys are added to. -/
structure Draft where
  entries : Entries
  path : List String

/-- A header: one pair of brackets opens a table, two open a row. -/
def readHeader (d : Draft) : List Char → Option (Draft × List Char)
  | '[' :: '[' :: s => do
    let (parts, s) ← readKey (s.length + 1) s
    let (path, key) ← splitKey parts
    match s with
    | ']' :: ']' :: s =>
      let entries ← onPath (openRow key) false path .headed d.entries
      some (⟨entries, parts⟩, s)
    | _ => none
  | '[' :: s => do
    let (parts, s) ← readKey (s.length + 1) s
    let (path, key) ← splitKey parts
    match s with
    | ']' :: s =>
      let entries ← onPath (openTable key) false path .headed d.entries
      some (⟨entries, parts⟩, s)
    | _ => none
  | _ => none

/-- A key, and its value. -/
def readEntry (d : Draft) (s : List Char) : Option (Draft × List Char) := do
  let (parts, s) ← readKey (s.length + 1) s
  let (path, key) ← splitKey parts
  match s with
  | '=' :: s =>
    let (value, s) ← readValue (s.length + 1) nestingLimit (skipWhite s)
    let entries ← onPath (insert path key value) false d.path .headed d.entries
    some ({ d with entries }, s)
  | _ => none

def readLines : (fuel : Nat) → Draft → List Char → Option Entries
  | 0, _, _ => none
  | fuel + 1, d, s =>
    match skipLines s.length s with
    | [] => some d.entries
    | s => do
      let (d, s) ← if s.head? = some '[' then readHeader d s else readEntry d s
      readLines fuel d (← endLine s)

/-- The entries of a document; a byte order mark in front is skipped. -/
def ofText? (s : String) : Option Entries :=
  let chars := match s.toList with
    | '\ufeff' :: cs => cs
    | cs => cs
  readLines (chars.length + 1) ⟨[], []⟩ chars

end FieldGateway.Toml
