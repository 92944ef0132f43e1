import FieldGateway.Service.Writing

/-
  Commands: who may run one, and what is answered. `authorize` checks, in this order, the lock of
  the service, the device, the command, the lock of the device, its health, and the size of the
  command; a refusal leaves no trace.
-/

namespace FieldGateway.Service

variable {σ : Type} (driver : Driver σ)

/-- The command of that name in the direction of the method, or why there is none. -/
def resolve (d : Device) (command : String) (m : Method) :
    Action σ (Except CommandError Command) := do
  let index ← onSite (Site.index driver d.registration)
  match index.resolve? command m.direction with
  | some c => return .ok c
  | none =>
    if index.hasCommand command then return .error (.wrongDirection command m.name)
    else return .error (.commandNotFound d.name command)

/-- What keeps a command from a device. -/
def obstacle? (s : Service σ) (d : Device) (c : Command) : Option CommandError :=
  let max := s.controller.config.maxCommandOps
  if s.site.isLocked d then some (.deviceLocked d.name)
  else if s.site.isDown d then some (.deviceDown d.name)
  else if 0 < max ∧ max < c.size then some (.tooManyOperations c.name c.size max)
  else none

/-- The device and the command, if the command may be run now. -/
def authorize (device command : String) (m : Method) :
    Action σ (Except CommandError (Device × Command)) := do
  let s ← get
  if s.controller.locked then return .error .serviceLocked
  else
    match s.device? device with
    | none => return .error (.deviceNotFound device)
    | some d =>
      match ← resolve driver d command m with
      | .error e => return .error e
      | .ok c =>
        match (← get).obstacle? d c with
        | some e => return .error e
        | none => return .ok (d, c)

/-- Reads a command of a device, whether or not it may be run now. -/
def readCommand (device command : String) (m : Method) :
    Action σ (Except CommandError (List Result × CookedEvent)) := do
  match (← get).device? device with
  | none => return .error (.deviceNotFound device)
  | some d =>
    match ← resolve driver d command m with
    | .error e => return .error e
    | .ok c => read driver d c

/-- Runs a command that reads. -/
def runGet (device command : String) : Action σ (Except CommandError CookedEvent) := do
  match ← authorize driver device command .get with
  | .error e => return .error e
  | .ok (d, c) =>
    match c.unreadable? with
    | some resource => return .error (.notReadable resource)
    | none => return (← read driver d c).map (·.2)

/-- Runs a command that writes. -/
def runPut (device command : String) (params : Params) :
    Action σ (Except CommandError Unit) := do
  match ← authorize driver device command .put with
  | .error e => return .error e
  | .ok (d, c) =>
    match (← get).intake.values params c.steps with
    | .error e => return .error e
    | .ok values => write driver d c values

/-- Answers a command that writes. -/
def answerPut (device command : String) (params : Params) : Action σ CommandReply := do
  match ← runPut driver device command params with
  | .ok () => return .written
  | .error e => return .ofError e

/-- Answers a command of a device. What it reads is returned and never published. -/
def deviceCommand (device command : String) (m : Method) (params : Params) :
    Action σ CommandReply := do
  match m with
  | .get =>
    match ← runGet driver device command with
    | .ok event => return .read event
    | .error e => return .ofError e
  | .put => answerPut driver device command params

/-- Answers a request. What it reads is published, returned, both, or neither, as the query
says. -/
def execute (r : CommandRequest) : Action σ CommandReply := do
  match r.method with
  | .get =>
    match ← runGet driver r.device r.command with
    | .ok event =>
      if r.query.pushed then publish event
      return .ofQuery r.query event
    | .error e => return .ofError e
  | .put => answerPut driver r.device r.command r.params

/-- Publishes results that the driver came by on its own, cooked as those of a command. -/
def postReadings (device source : String) (results : List Result) :
    Action σ (Except CommandError CookedEvent) := do
  let s ← get
  match s.device? device with
  | none => return .error (.deviceNotFound device)
  | some d =>
    if s.site.isLocked d then return .error (.deviceLocked device)
    else
      let index ← onSite (Site.index driver d.registration)
      match index.resolve? source .get with
      | none => return .error (.commandNotFound device source)
      | some c =>
        if results.length = c.size then
          match ← cook d c results with
          | .error e => return .error e
          | .ok event =>
            publish event
            return .ok event
        else
          return .error (← violated d (Text.natText results.length ++ " pushed results for " ++
            Text.natText c.size ++ " requests"))

end FieldGateway.Service
