import FieldGateway.Json.Reader

/-
  Records out of JSON. A record is an object of its fields, or an array of them in the order in
  which they are declared. Members of other names are not looked at; a field given twice, a null
  for a field that is not optional, and an item too many are refused. Numbers, texts and truth
  values are never taken for one another, except a whole number for a double.
-/

namespace FieldGateway.Json

open FieldGateway.Floating

/-- A reader of one type from a node inside which so many arrays and objects may be opened. -/
abbrev Decoder (α : Type) := Nat → Node → Option α

namespace Decoder

variable {α : Type}

def text : Decoder String
  | _, .str s => s
  | _, _ => none

def bool : Decoder Bool
  | _, .bool b => some b
  | _, _ => none

/-- A whole number within bounds. -/
def whole (least greatest : Int) : Decoder Int
  | _, .num (some (.whole i)) => if least ≤ i ∧ i ≤ greatest then some i else none
  | _, _ => none

/-- A whole number from zero up to the greatest. -/
def count (greatest : Nat) : Decoder Nat := fun depth n => (whole 0 greatest depth n).map Int.toNat

def real : Decoder Double
  | _, .num (some (.whole i)) => some (Number.ofInt Format.double i)
  | _, .num (some (.real x)) => some x
  | _, _ => none

/-- Any value. -/
def any : Decoder Json := ofNode?

def list (item : Decoder α) : Decoder (List α)
  | depth + 1, .arr xs => xs.mapM (item depth)
  | _, _ => none

/-- A member whose key is a text. -/
def member (value : Decoder α) (depth : Nat) : Option String × Node → Option (String × α)
  | (k, n) => do some ((← k), (← value depth n))

/-- An object as a map; of members with one key the last counts. -/
def dict (value : Decoder α) : Decoder (Dict α)
  | depth + 1, .obj ms => (ms.mapM (member value depth)).map Dict.ofList
  | _, _ => none

def nullable (value : Decoder α) : Decoder (Option α)
  | _, .null => some none
  | depth, n => (value depth n).map some

/-- One of several names, alone or as the only key of an object, with null. -/
def choice (names : List (String × α)) : Decoder α
  | _, .str s => do names.lookup (← s)
  | _ + 1, .obj [(k, .null)] => do names.lookup (← k)
  | _, _ => none

/-- A text that a function has to accept. -/
def parsed (parse : String → Option α) : Decoder α := fun depth n => do parse (← text depth n)

end Decoder

/-- The fields given for a record. -/
structure Fields where
  depth : Nat
  byPlace : Bool
  given : List (String × Node)

namespace Fields

variable {α : Type}

/-- At most one member of each of these names. -/
def distinct (names : List String) (members : List (String × Node)) : Bool :=
  names.all fun name => (members.filter fun m => m.1 == name).length ≤ 1

/-- The fields of these names. -/
def of? (names : List String) : Decoder Fields
  | depth + 1, .obj ms => do
    let members ← ms.mapM fun (m : Option String × Node) => m.1.map fun k => (k, m.2)
    if distinct names members then some ⟨depth, false, members⟩ else none
  | depth + 1, .arr xs =>
    if xs.length ≤ names.length then some ⟨depth, true, names.zip xs⟩ else none
  | _, _ => none

def find? (fields : Fields) (name : String) : Option Node := fields.given.lookup name

/-- A field that has to be given. -/
def required (fields : Fields) (name : String) (value : Decoder α) : Option α := do
  value fields.depth (← fields.find? name)

/-- A field that stands for a default when it is not given. -/
def withDefault (fields : Fields) (name : String) (default : α) (value : Decoder α) : Option α :=
  match fields.find? name with
  | some n => value fields.depth n
  | none => some default

/-- A field that may be null, and may be missing. -/
def optional (fields : Fields) (name : String) (value : Decoder α) : Option (Option α) :=
  fields.withDefault name none value.nullable

/-- A field that may be null, and may be missing among named fields but not among placed ones. -/
def nullable (fields : Fields) (name : String) (value : Decoder α) : Option (Option α) :=
  if fields.byPlace then fields.required name value.nullable else fields.optional name value

end Fields

/-- Reads a text with a record reader. -/
def decodeText {α : Type} (decoder : Decoder α) (s : String) : Option α := do
  decoder nestingLimit (← Node.ofText? s)

/-- Reads a text that is given by its bytes with a record reader. -/
def decodeBytes {α : Type} (decoder : Decoder α) (bytes : List UInt8) : Option α := do
  decoder nestingLimit (← Node.ofBytes? bytes)

/-- Reads a value with a record reader. -/
def decodeValue {α : Type} (decoder : Decoder α) (j : Json) : Option α :=
  decoder nestingLimit j.toNode

end FieldGateway.Json
