import FieldGateway.Value.Basic

/-
  Profiles: what the devices of a kind have in common. A profile declares resources, the typed
  points that can be read or written, and commands, ordered groups of operations on them.
-/

namespace FieldGateway

open FieldGateway.Floating

/-- Which way a command goes. -/
inductive Direction where
  | get
  | set
deriving DecidableEq, Repr

def Direction.name : Direction → String
  | get => "GET"
  | set => "SET"

/-- Which ways a resource or a command may be used. -/
inductive Access where
  | read
  | write
  | readWrite
deriving DecidableEq, Repr

namespace Access

def readable : Access → Bool
  | read | readWrite => true
  | write => false

def writable : Access → Bool
  | write | readWrite => true
  | read => false

def allows (a : Access) : Direction → Bool
  | .get => a.readable
  | .set => a.writable

end Access

/-- The typed properties of a resource. -/
structure Properties where
  type : ValueType
  access : Access := .readWrite
  mask : Option UInt64 := none
  defaultText : Option String := none
  minimum : Option Double := none
  maximum : Option Double := none
  scale : Option Double := none
  offset : Option Double := none
  base : Option Double := none
  units : Option String := none
  mediaType : Option String := none
deriving DecidableEq

/-- A point of a device. The attributes are for the driver, which parses them on first use. -/
structure Resource where
  name : String
  description : String := ""
  properties : Properties
  attributes : Json := .null

/-- A step of a command: a resource, the text to write when none is given, and the texts that
raw values are presented as. -/
structure Operation where
  resource : String
  defaultText : Option String := none
  mappings : TextMap := ∅
deriving DecidableEq

/-- A command as declared. -/
structure Declaration where
  name : String
  access : Access := .readWrite
  operations : List Operation := []
deriving DecidableEq

structure Profile where
  name : String
  description : String := ""
  manufacturer : String := ""
  model : String := ""
  labels : List String := []
  resources : List Resource := []
  commands : List Declaration := []

/-- The first element that occurs again, in the order of second occurrences. -/
def firstRepeated (seen : List String) : List String → Option String
  | [] => none
  | x :: xs => if seen.contains x then some x else firstRepeated (x :: seen) xs

namespace Profile

/-- The first resource of that name. -/
def resource? (p : Profile) (name : String) : Option Resource :=
  p.resources.find? fun r => r.name == name

/-- What makes a profile unfit for registration. -/
inductive Flaw where
  | unnamed
  | repeatedResource (profile resource : String)
  | repeatedCommand (profile command : String)
deriving DecidableEq, Repr

def Flaw.message : Flaw → String
  | unnamed => "profile name is empty"
  | repeatedResource p r => p ++ ": duplicate resource " ++ r
  | repeatedCommand p c => p ++ ": duplicate command " ++ c

/-- The first flaw: the name, then the resources, then the commands. An operation on a resource
that does not exist is none; it drops its command from the index. -/
def flaw? (p : Profile) : Option Flaw :=
  if Text.isBlankText p.name then some .unnamed
  else match firstRepeated [] (p.resources.map (·.name)) with
    | some r => some (.repeatedResource p.name r)
    | none => (firstRepeated [] (p.commands.map (·.name))).map (.repeatedCommand p.name)

end Profile

end FieldGateway
