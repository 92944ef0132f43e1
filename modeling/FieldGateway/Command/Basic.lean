import FieldGateway.Profile.Basic
import FieldGateway.Value.Mask

/-
  Resolved commands. For each direction a declared command allows, and for each resource that no
  declaration shadows, a profile has a command: the requests that go to the driver, and with each
  request what the pipeline needs to read or write its value. `Index.build` asks for the
  attributes of a resource when it first needs them and never again, a failure included.
-/

namespace FieldGateway

/-- One access to a resource, as the driver is asked for it. -/
structure Request where
  resource : String
  /-- The attributes as the driver parsed them. -/
  attributes : Json
  type : ValueType
  mask : Option Mask

/-- A request with the properties, mappings and default text of its value. -/
structure Step where
  request : Request
  properties : Properties
  mappings : TextMap
  defaultText : Option String

/-- A command in one direction, its steps in the order of their declaration. -/
structure Command where
  name : String
  direction : Direction
  profileName : String
  steps : List Step

namespace Command

def requests (c : Command) : List Request := c.steps.map (·.request)

def size (c : Command) : Nat := c.steps.length

/-- The first resource that cannot be read. -/
def unreadable? (c : Command) : Option String :=
  (c.steps.find? fun s => !s.properties.access.readable).map (·.request.resource)

end Command

/-- A mask counts on whole numbers only. -/
def Properties.usableMask (p : Properties) : Option Mask :=
  if p.type.isInteger then p.mask.map Mask.mk else none

def Step.of (r : Resource) (attributes : Json) (defaultText : Option String)
    (mappings : TextMap) : Step :=
  { request :=
      { resource := r.name, attributes, type := r.properties.type,
        mask := r.properties.usableMask }
    properties := r.properties
    mappings
    defaultText }

namespace Index

/-- What parsing the attributes of a resource came to, `none` for a failure. -/
abbrev Parse := String → Json → Option Json

/-- Outcomes by the place of the resource, the first one parsed in front. -/
abbrev Attempts := List (Nat × Option Json)

/-- The outcome for a resource: the one on record, or a new one. -/
def attempt (parse : Parse) (place : Nat) (r : Resource) (past : Attempts) :
    Option Json × Attempts :=
  match past.lookup place with
  | some outcome => (outcome, past)
  | none =>
    let outcome := parse r.name r.attributes
    (outcome, past ++ [(place, outcome)])

/-- The first resource of that name, with its place. -/
def locate? (p : Profile) (name : String) : Option (Resource × Nat) :=
  p.resources.zipIdx.find? fun r => r.1.name == name

/-- The steps of the operations, up to the first that has no resource or no attributes. -/
def stepsOf (parse : Parse) (p : Profile) : List Operation → Attempts →
    Option (List Step) × Attempts
  | [], past => (some [], past)
  | op :: ops, past =>
    match locate? p op.resource with
    | none => (none, past)
    | some (r, place) =>
      match attempt parse place r past with
      | (none, past) => (none, past)
      | (some attributes, past) =>
        let (rest, past) := stepsOf parse p ops past
        (rest.map (Step.of r attributes op.defaultText op.mappings :: ·), past)

/-- Commands found so far, in order, and the outcomes on record. -/
structure State where
  commands : List Command
  past : Attempts

/-- Adds the command whose steps were found; without them it is dropped. -/
def State.add (s : State) (p : Profile) (name : String) (direction : Direction)
    (found : Option (List Step) × Attempts) : State :=
  match found with
  | (some steps, past) => ⟨s.commands ++ [⟨name, direction, p.name, steps⟩], past⟩
  | (none, past) => ⟨s.commands, past⟩

def directions : List Direction := [.get, .set]

def addDeclaration (parse : Parse) (p : Profile) (s : State) (c : Declaration) : State :=
  (directions.filter c.access.allows).foldl
    (fun s d => s.add p c.name d (stepsOf parse p c.operations s.past)) s

/-- A declaration takes its name in a direction, whether or not its command was dropped. -/
def declares (p : Profile) (name : String) (d : Direction) : Bool :=
  p.commands.any fun c => c.name == name && c.access.allows d

/-- The steps of a resource taken by itself. -/
def ownSteps (parse : Parse) (r : Resource) (place : Nat) (past : Attempts) :
    Option (List Step) × Attempts :=
  let (outcome, past) := attempt parse place r past
  (outcome.map fun a => [Step.of r a r.properties.defaultText ∅], past)

def addResource (parse : Parse) (p : Profile) (s : State) (r : Resource × Nat) : State :=
  (directions.filter fun d => r.1.properties.access.allows d && !declares p r.1.name d).foldl
    (fun s d => s.add p r.1.name d (ownSteps parse r.1 r.2 s.past)) s

end Index

/-- The commands of a profile, and the resources whose attributes were parsed, in order. -/
structure Index where
  commands : List Command
  parsed : List String

namespace Index

/-- Declared commands first, then the resources that none of them shadows. -/
def build (parse : Parse) (p : Profile) : Index :=
  let s := p.commands.foldl (addDeclaration parse p) ⟨[], []⟩
  let s := p.resources.zipIdx.foldl (addResource parse p) s
  ⟨s.commands, s.past.filterMap fun a => p.resources[a.1]?.map (·.name)⟩

def resolve? (i : Index) (name : String) (d : Direction) : Option Command :=
  i.commands.find? fun c => c.name == name && c.direction == d

def hasCommand (i : Index) (name : String) : Bool := i.commands.any fun c => c.name == name

/-- The first command that reads a single resource; it finds out whether a device answers. -/
def probe? (i : Index) : Option Command :=
  i.commands.find? fun c => c.direction == .get && c.size == 1

end Index

end FieldGateway
