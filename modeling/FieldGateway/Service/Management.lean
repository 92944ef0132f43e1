import FieldGateway.Service.Sampling

/-
  The life of a service: profiles and devices are added, changed and removed, the service starts
  and stops. A step that fails changes nothing, with the exceptions its comment names.
-/

namespace FieldGateway.Service

open Timer (Control)

variable {σ : Type} (driver : Driver σ)

def changeRegistry (r : Registry) : Action σ Unit :=
  changeSite fun site => { site with registry := r }

/-! ## Profiles -/

def addProfile (p : Profile) : Action σ (Except DeviceError Registration) := do
  let site := (← get).site
  let serial := site.indexes.next
  match site.registry.addProfile serial p with
  | .error e => return .error e
  | .ok registry =>
    changeSite fun site => { site with registry, indexes := site.indexes.add none }
    return .ok ⟨serial, p⟩

def removeProfile (name : String) : Action σ (Except DeviceError Unit) := do
  match (← get).site.registry.removeProfile name with
  | .error e => return .error e
  | .ok registry =>
    changeRegistry registry
    return .ok ()

/-! ## Devices -/

/-- The incarnation that a configuration asks for, not yet registered. -/
def incarnation (s : Service σ) (config : DeviceConfig) : Except DeviceError Device :=
  match s.site.registry.profile? config.profileName with
  | none => .error (.noProfile config.profileName)
  | some profile =>
    match driver.checkAddress s.site.driverState config.protocols with
    | .error e => .error (.driver e)
    | .ok () => .ok (.ofConfig s.site.conditions.next profile config)

/-- Puts a device on record, up and with all failures in hand. -/
def insertDevice (config : DeviceConfig) : Action σ (Except DeviceError Device) := do
  let s ← get
  if Text.isBlankText config.name then return .error (.invalidDevice "device name is empty")
  else
    match incarnation driver s config with
    | .error e => return .error e
    | .ok d =>
      match s.site.registry.insertDevice d with
      | .error e => return .error e
      | .ok registry =>
        let condition : Condition :=
          { admin := config.admin, remainingFails := s.controller.config.allowedFails }
        changeSite fun site =>
          { site with registry, conditions := site.conditions.add condition }
        announce s.controller.config.serviceName (.deviceAdded d.name d.profile.name)
        changeSite (Site.noteAdded driver d)
        return .ok d

/-- Puts a new incarnation in the place of a device. Its health is that of the old one; its
address is made anew. -/
def replaceDevice (config : DeviceConfig) : Action σ (Except DeviceError Device) := do
  let s ← get
  match s.device? config.name with
  | none => return .error (.noDevice config.name)
  | some old =>
    match incarnation driver s config with
    | .error e => return .error e
    | .ok d =>
      match s.site.registry.replaceDevice d with
      | .error e => return .error e
      | .ok registry =>
        let condition : Condition :=
          { s.site.condition old with admin := config.admin, address := none }
        changeSite fun site =>
          { site with registry, conditions := site.conditions.add condition }
        changeSite (Site.noteUpdated driver d)
        return .ok d

/-- Samples a device that was put on record, if the service runs. -/
def sampleRegistered (registered : Except DeviceError Device) :
    Action σ (Except DeviceError Device) := do
  match registered with
  | .error e => return .error e
  | .ok d =>
    if (← get).controller.running then startAutoEvents driver d.name
    return .ok d

/-- Registers a device and samples it. -/
def addDevice (config : DeviceConfig) : Action σ (Except DeviceError Device) := do
  sampleRegistered driver (← insertDevice driver config)

/-- Changes the configuration of a device, and samples it anew. -/
def updateDevice (config : DeviceConfig) : Action σ (Except DeviceError Device) := do
  sampleRegistered driver (← replaceDevice driver config)

/-- Takes a device off record. -/
def dropDevice (name : String) : Action σ (Except DeviceError Unit) := do
  let s ← get
  match s.site.registry.removeDevice name with
  | .error e => return .error e
  | .ok registry =>
    changeRegistry registry
    announce s.controller.config.serviceName (.deviceRemoved name)
    changeSite (Site.noteRemoved driver name)
    return .ok ()

/-- Removes a device. What still samples or probes under that name is stopped in any case. -/
def removeDevice (name : String) : Action σ (Except DeviceError Unit) := do
  stopAutoEvents driver name
  cancelProbe name
  dropDevice driver name

/-- A step on the incarnation that is registered under a name. -/
def withDevice (name : String) (step : Device → Action σ Unit) :
    Action σ (Except DeviceError Unit) := do
  match (← get).device? name with
  | none => return .error (.noDevice name)
  | some d =>
    step d
    return .ok ()

def setAdminState (name : String) (state : AdminState) : Action σ (Except DeviceError Unit) :=
  withDevice name fun d => changeSite fun site =>
    site.setCondition d { site.condition d with admin := state }

def setServiceAdminState (state : AdminState) : Action σ Unit :=
  changeController fun c => { c with locked := state == .locked }

/-- The driver itself saw the device answer. -/
def noteSuccess (name : String) : Action σ (Except DeviceError Unit) :=
  withDevice name reportSuccess

/-- The driver itself saw the device fail. -/
def noteFailure (name reason : String) : Action σ (Except DeviceError Unit) :=
  withDevice name fun d => reportFailure d reason

/-! ## Start and stop -/

/-- Announces the counters. -/
def announceCounters : Action σ Control := do
  let c := (← get).controller
  announce c.config.serviceName (.metrics c.config.serviceName c.metrics)
  return .again

/-- The timer of the counters, in the place of the one before. -/
def startCounters : Action σ Unit := do
  let c := (← get).controller
  match c.config.metricsInterval? with
  | none => return
  | some interval =>
    let number ← setTimer (.periodic interval) .counters
    changeController fun c => { c with countersTimer := some number }
    match c.countersTimer with
    | some previous => retireTimer previous
    | none => return

/-- Starts the service, unless the driver refuses. The devices are taken in the order of their
names; a registry that keeps them in no order may take them in any other. -/
def start : Action σ (Except DeviceError Unit) := do
  match ← onSite (Site.prepare driver) with
  | .error e => return .error (.driver e)
  | .ok () =>
    (← get).site.registry.devices.keys.forM (startAutoEvents driver)
    startCounters
    changeController fun c => { c with running := true }
    return .ok ()

/-- Stops every timer, then the driver. -/
def stop (force : Bool) : Action σ Unit := do
  changeController fun c => { c with running := false }
  stopAllAutoEvents driver
  cancelAllProbes
  match (← get).controller.countersTimer with
  | some number =>
    changeController fun c => { c with countersTimer := none }
    retireTimer number
  | none => pure ()
  changeSite (Site.shutDown driver force)

end FieldGateway.Service
