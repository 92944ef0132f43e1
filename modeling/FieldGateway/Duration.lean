import FieldGateway.Text.Integer
import FieldGateway.Word

/-
  Lengths of time as people write them, `1h 30m` or `2.5s`: spans of a number and a unit, added
  up. Main definition: `Duration.ofText`, one pass over the characters that keeps what it is
  reading in a `Stage`. A length has to be exact in nanoseconds and to fit 64 bits of seconds.
-/

namespace FieldGateway

structure Duration where
  nanos : Nat
deriving DecidableEq, Repr

namespace Duration

open FieldGateway.Text

def perSecond : Nat := 1000000000

def ofSeconds (n : Nat) : Duration := ⟨n * perSecond⟩

def seconds (d : Duration) : Nat := d.nanos / perSecond

def subsecond (d : Duration) : Nat := d.nanos % perSecond

def millis (d : Duration) : Nat := d.nanos / 1000000

/-- The milliseconds as journals keep them, in 64 bits. -/
def millisWord (d : Duration) : UInt64 := UInt64.ofNat d.millis

/-- Why a text is no length of time. Places are counted in bytes. -/
inductive ReadError where
  | empty
  | numberExpected (place : Nat)
  | invalidCharacter (place : Nat)
  | unitMissing (value : Nat)
  | unknownUnit (unit : String)
  | tooLarge
deriving DecidableEq, Repr

def ReadError.message : ReadError → String
  | empty => "value was empty"
  | numberExpected n => "expected number at " ++ natText n
  | invalidCharacter n => "invalid character at " ++ natText n
  | unitMissing v =>
    "time unit needed, for example " ++ natText v ++ "sec or " ++ natText v ++ "ms"
  | unknownUnit u =>
    "unknown time unit \"" ++ u ++ "\", supported units: ns, us/µs, ms, sec, min, hours, days, " ++
      "weeks, months, years (and few variations)"
  | tooLarge =>
    "number is too large or cannot be represented without a lack of precision " ++
      "(values below 1ns are not supported)"

/-- A unit counts so many of its grains; a grain is a nanosecond or a second. `divided` is the
unit in the grain that a fraction has to come out even in, if it may have one. -/
structure Measure where
  grain : Nat
  whole : Nat
  divided : Option (Nat × Nat)

namespace Measure

def nanosecond : Measure := ⟨1, 1, none⟩
def microsecond : Measure := ⟨1, 1000, some (1, 1000)⟩
def millisecond : Measure := ⟨1, 1000000, some (1, 1000000)⟩
def second : Measure := ⟨perSecond, 1, some (1, perSecond)⟩
def minute : Measure := ⟨perSecond, 60, some (1, 60 * perSecond)⟩

/-- A unit of so many seconds, an hour or longer. -/
def long (seconds : Nat) : Measure := ⟨perSecond, seconds, some (perSecond, seconds)⟩

def table : List (List String × Measure) :=
  [(["nanos", "nsec", "ns"], nanosecond),
   (["usec", "us", "µs"], microsecond),
   (["millis", "msec", "ms"], millisecond),
   (["seconds", "second", "secs", "sec", "s"], second),
   (["minutes", "minute", "min", "mins", "m"], minute),
   (["hours", "hour", "hrs", "hr", "h"], long 3600),
   (["days", "day", "d"], long 86400),
   (["weeks", "week", "wk", "wks", "w"], long 604800),
   (["months", "month", "M"], long 2630016),
   (["years", "year", "yr", "yrs", "y"], long 31557600)]

def ofName? (unit : String) : Option Measure :=
  (table.find? fun row => row.1.contains unit).map (·.2)

end Measure

/-- The digits behind a point, as a fraction. -/
structure Fraction where
  numerator : Nat
  denominator : Nat

def fits (n : Nat) : Bool := n ≤ Word.greatest 64

/-- Adds an amount of grains: nanoseconds go to the part below a second, seconds to the rest,
and neither may pass 64 bits. -/
def addGrains (total : Duration) (grain amount : Nat) : Except ReadError Duration :=
  let next : Duration := ⟨total.nanos + amount * grain⟩
  let low := total.subsecond + (if grain = 1 then amount else 0)
  if fits amount && fits low && fits next.seconds then .ok next else .error .tooLarge

/-- Adds a span: its whole part, then its fraction. -/
def addSpan (total : Duration) (n : Nat) (fraction : Option Fraction) (unit : String) :
    Except ReadError Duration :=
  match Measure.ofName? unit with
  | none => .error (if unit = "" then .unitMissing n else .unknownUnit unit)
  | some m => do
    let total ← addGrains total m.grain (n * m.whole)
    match fraction, m.divided with
    | none, _ => .ok total
    | some _, none => .error .tooLarge
    | some f, some (grain, size) =>
      let product := f.numerator * size
      if fits product && product % f.denominator = 0 then
        addGrains total grain (product / f.denominator)
      else .error .tooLarge

/-- What is being read. -/
inductive Stage where
  /-- The first digit of a span; the place where the search began, and whether the text has no
  span yet. -/
  | start (since : Nat) (first : Bool)
  | number (n : Nat)
  /-- Digits behind a point, and the place that a complaint is to name. -/
  | fraction (n : Nat) (digits : Fraction) (place : Nat)
  /-- The letters of a unit, the last one first. -/
  | unit (n : Nat) (digits : Option Fraction) (letters : List Char)

def isUnitLetter (c : Char) : Bool := c.isAlpha || c == 'µ'

def digitOf (c : Char) : Nat := c.toNat - '0'.toNat

def unitText (letters : List Char) : String := String.ofList letters.reverse

/-- Reads on from the byte at place `off`. -/
def scan (stage : Stage) (total : Duration) (off : Nat) :
    List Char → Except ReadError Duration
  | [] =>
    match stage with
    | .start _ first => if first then .error .empty else .ok total
    | .number n => addSpan total n none ""
    | .fraction n f place =>
      if f.denominator = 1 then .error (.invalidCharacter place) else addSpan total n (some f) ""
    | .unit n f letters => addSpan total n f (unitText letters)
  | c :: rest =>
    let next := off + c.utf8Size
    match stage with
    | .start since first =>
      if c.isDigit then scan (.number (digitOf c)) total next rest
      else if isBlank c then scan (.start since first) total next rest
      else .error (.numberExpected since)
    | .number n =>
      if c.isDigit then
        let m := n * 10 + digitOf c
        if fits m then scan (.number m) total next rest else .error .tooLarge
      else if isBlank c then scan (.number n) total next rest
      else if isUnitLetter c then scan (.unit n none [c]) total next rest
      else if c = '.' then scan (.fraction n ⟨0, 1⟩ off) total next rest
      else .error (.invalidCharacter off)
    | .fraction n f place =>
      if c.isDigit then
        let g : Fraction := ⟨f.numerator * 10 + digitOf c, f.denominator * 10⟩
        if fits g.denominator && fits g.numerator then scan (.fraction n g next) total next rest
        else .error .tooLarge
      else if isBlank c then scan (.fraction n f next) total next rest
      else if isUnitLetter c && f.denominator != 1 then
        scan (.unit n (some f) [c]) total next rest
      else .error (.invalidCharacter place)
    | .unit n f letters =>
      if c.isDigit then
        match addSpan total n f (unitText letters) with
        | .ok total => scan (.number (digitOf c)) total next rest
        | .error e => .error e
      else if isBlank c then
        match addSpan total n f (unitText letters) with
        | .ok total => scan (.start next false) total next rest
        | .error e => .error e
      else if isUnitLetter c then scan (.unit n f (c :: letters)) total next rest
      else .error (.invalidCharacter off)

/-- Reads a length. A lone zero needs no unit. -/
def ofText (s : String) : Except ReadError Duration :=
  if s = "0" then .ok ⟨0⟩ else scan (.start 0 true) ⟨0⟩ 0 s.toList

/-- A length above zero, blanks around it ignored. -/
def interval? (s : String) : Option Duration :=
  match ofText (trim s) with
  | .ok d => if d.nanos = 0 then none else some d
  | .error _ => none

end Duration

end FieldGateway
