import FieldGateway.Dict
import FieldGateway.Floating.Arithmetic

/-
  JSON values. A number is a whole number of 64 bits, signed or not, or a finite double; the
  members of an object read from a text are in increasing order of their keys, each key once.
-/

namespace FieldGateway

/-- A JSON number. -/
inductive Json.Number where
  | whole (i : Int)
  | real (x : Floating.Double)
deriving DecidableEq, Repr

inductive Json where
  | null
  | bool (b : Bool)
  | num (n : Json.Number)
  | str (s : String)
  | arr (items : List Json)
  | obj (members : List (String × Json))
deriving Repr, BEq, Inhabited

namespace Json

/-- The least and the greatest whole number. -/
def leastWhole : Int := Word.leastSigned 64
def greatestWhole : Int := Word.greatest 64

namespace Number

/-- Equal numbers of one kind: a whole number and a double are never the same. -/
def same : Number → Number → Bool
  | .whole i, .whole j => i == j
  | .real x, .real y => x.same y
  | _, _ => false

end Number

mutual

/-- Equal values, doubles being compared as numbers. -/
def same : Json → Json → Bool
  | .null, .null => true
  | .bool a, .bool b => a == b
  | .num m, .num n => m.same n
  | .str s, .str t => s == t
  | .arr xs, .arr ys => sameItems xs ys
  | .obj ms, .obj ns => sameMembers ms ns
  | _, _ => false

def sameItems : List Json → List Json → Bool
  | [], [] => true
  | x :: xs, y :: ys => same x y && sameItems xs ys
  | _, _ => false

def sameMembers : List (String × Json) → List (String × Json) → Bool
  | [], [] => true
  | (k, x) :: xs, (l, y) :: ys => k == l && same x y && sameMembers xs ys
  | _, _ => false

end

/-- The object with the members of a map. -/
def ofDict (m : Dict Json) : Json := .obj m.entries

/-- The object with the entries of a map as they are listed. -/
def ofListing {m : TextMap} (l : m.Listing) : Json := .obj (l.entries.map fun e => (e.1, .str e.2))

def ofTextMap (m : TextMap) : Json := ofListing (.sorted m)

/-- An object whose members are sorted here. -/
def sortedObj (members : List (String × Json)) : Json := ofDict (Dict.ofList members)

/-- The first member of that key. -/
def member? : Json → String → Option Json
  | .obj members, k => (members.find? fun m => m.1 == k).map (·.2)
  | _, _ => none

end Json

end FieldGateway
