/-
  White space and letter case of the texts people type: values, intervals, names. White space
  is the Unicode property `White_Space`; letter case is ASCII only.
-/

namespace FieldGateway.Text

/-- A character of the Unicode property `White_Space`. -/
def isBlank (c : Char) : Bool :=
  let n := c.toNat
  (0x09 ≤ n && n ≤ 0x0d) || n == 0x20 || n == 0x85 || n == 0xa0 || n == 0x1680 ||
    (0x2000 ≤ n && n ≤ 0x200a) || n == 0x2028 || n == 0x2029 || n == 0x202f ||
    n == 0x205f || n == 0x3000

/-- The text without the blanks at either end. -/
def trimChars (s : List Char) : List Char :=
  ((s.dropWhile isBlank).reverse.dropWhile isBlank).reverse

/-- The text without the blanks at either end. -/
def trim (s : String) : String := String.ofList (trimChars s.toList)

/-- Nothing but blanks. -/
def isBlankText (s : String) : Bool := s.toList.all isBlank

/-- A capital ASCII letter becomes small; every other character stays. -/
def lowerChar (c : Char) : Char := c.toLower

def lower (s : String) : String := String.ofList (s.toList.map lowerChar)

/-- Equal up to the case of ASCII letters. -/
def equalIgnoringCase (s t : String) : Bool := s.toList.map lowerChar == t.toList.map lowerChar

end FieldGateway.Text
