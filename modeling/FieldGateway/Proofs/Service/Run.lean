import FieldGateway.Proofs.Service.Work

/-
  Runs of a service: operations one at a time, in any order, from a service of which nothing was
  asked yet. Timers may fire whenever they are armed, so a run in which time passes
  (`advance_is_run`) is one run among many. `performAll_keeps`: what every operation keeps, every
  run keeps.
-/

namespace FieldGateway.Service

open FieldGateway.Action

variable {σ : Type}

/-- What can be asked of a service, and what happens to it by itself. -/
inductive Operation (σ : Type) where
  | addProfile (p : Profile)
  | removeProfile (name : String)
  | addDevice (config : DeviceConfig)
  | updateDevice (config : DeviceConfig)
  | removeDevice (name : String)
  | setAdminState (name : String) (state : AdminState)
  | setServiceAdminState (state : AdminState)
  | deviceCommand (device command : String) (m : Method) (params : Params)
  | execute (r : CommandRequest)
  | postReadings (device source : String) (results : List Result)
  | noteSuccess (name : String)
  | noteFailure (name reason : String)
  | startAutoEvents (name : String)
  | stopAutoEvents (name : String)
  | start
  | stop (force : Bool)
  /-- A timer falls due: a sampler reads, a probe asks, the counters are announced. -/
  | fire (timer : Nat)
  /-- Time passes; the time of day is what it then is. -/
  | pass (millis timeOfDay : Nat)
  /-- The devices behind the driver change by themselves. -/
  | change (f : σ → σ)

variable (driver : Driver σ)

def perform (s : Service σ) : Operation σ → Service σ
  | .addProfile p => (addProfile p).after s
  | .removeProfile name => (removeProfile name).after s
  | .addDevice config => (addDevice driver config).after s
  | .updateDevice config => (updateDevice driver config).after s
  | .removeDevice name => (removeDevice driver name).after s
  | .setAdminState name state => (setAdminState name state).after s
  | .setServiceAdminState state => (setServiceAdminState state).after s
  | .deviceCommand device command m params =>
    (deviceCommand driver device command m params).after s
  | .execute r => (execute driver r).after s
  | .postReadings device source results => (postReadings driver device source results).after s
  | .noteSuccess name => (noteSuccess name).after s
  | .noteFailure name reason => (noteFailure name reason).after s
  | .startAutoEvents name => (startAutoEvents driver name).after s
  | .stopAutoEvents name => (stopAutoEvents driver name).after s
  | .start => (start driver).after s
  | .stop force => (stop driver force).after s
  | .fire timer => (fireTimer driver timer).after s
  | .pass millis timeOfDay => { s with site := { s.site with now := s.site.now + millis, timeOfDay } }
  | .change f => { s with site := { s.site with driverState := f s.site.driverState } }

def performAll (s : Service σ) (ops : List (Operation σ)) : Service σ := ops.foldl (perform driver) s

@[simp] theorem performAll_nil (s : Service σ) : performAll driver s [] = s := rfl

@[simp] theorem performAll_cons (s : Service σ) (op : Operation σ) (ops : List (Operation σ)) :
    performAll driver s (op :: ops) = performAll driver (perform driver s op) ops := rfl

theorem performAll_append (s : Service σ) (ops more : List (Operation σ)) :
    performAll driver s (ops ++ more) = performAll driver (performAll driver s ops) more :=
  List.foldl_append

theorem performAll_keeps {driver : Driver σ} {P : Service σ → Prop}
    (step : ∀ s op, P s → P (perform driver s op)) (s : Service σ) (ops : List (Operation σ))
    (h : P s) : P (performAll driver s ops) := by
  induction ops generalizing s with
  | nil => exact h
  | cons op ops ih => exact ih _ (step s op h)

/-- The device that an operation is about, if it runs a command on it, posts readings for it or
notes how it fared. -/
def Operation.chore? : Operation σ → Option String
  | .deviceCommand device .. => some device
  | .execute r => some r.device
  | .postReadings device .. => some device
  | .noteSuccess name => some name
  | .noteFailure name _ => some name
  | _ => none

theorem perform_chores {op : Operation σ} {name : String} (h : op.chore? = some name)
    (s : Service σ) : ChoresOn driver name s (perform driver s op) := by
  cases op with
  | deviceCommand device command m params =>
    cases h
    exact deviceCommand_chores driver name command m params s
  | execute r =>
    cases h
    exact execute_chores driver r s
  | postReadings device source results =>
    cases h
    exact postReadings_chores driver name source results s
  | noteSuccess device =>
    cases h
    exact withDevice_chores driver (Chores.success driver) name s
  | noteFailure device reason =>
    cases h
    exact withDevice_chores driver (fun d => Chores.failure driver d reason) name s
  | _ => cases h

/-- Nothing was asked of the service yet. Its settings, its bus, and the time are what they are. -/
structure Fresh (s : Service σ) : Prop where
  registry : s.site.registry = {}
  conditions : s.site.conditions = ∅
  indexes : s.site.indexes = ∅
  trace : s.site.trace = []
  metrics : s.controller.metrics = {}
  timers : s.controller.timers = ∅
  probes : s.controller.probes = ∅
  samplers : s.controller.samplers = ∅
  sampling : s.controller.sampling = ∅
  countersTimer : s.controller.countersTimer = none
  running : s.controller.running = false

theorem ofConfig_fresh (config : ServiceConfig) (timeOfDay : Nat) (driverState : σ) :
    Fresh (ofConfig config timeOfDay driverState) := by
  constructor <;> rfl

/-! ## Time -/

theorem clockTo_is_run (millis : Nat) (s : Service σ) :
    ∃ op, (clockTo millis).after s = perform driver s op := by
  have h : max s.site.now millis = s.site.now + (millis - s.site.now) := by omega
  refine ⟨.pass (millis - s.site.now) s.site.timeOfDay, ?_⟩
  simp only [perform, ← h]
  rfl

theorem fireNext_is_run (s : Service σ) : ∃ ops, fireNext driver s = performAll driver s ops := by
  unfold fireNext
  cases s.controller.nextTimer? with
  | none => exact ⟨[], rfl⟩
  | some next =>
    obtain ⟨waiting, number⟩ := next
    obtain ⟨op, hc⟩ := clockTo_is_run driver waiting.millis s
    refine ⟨[op, .fire number], ?_⟩
    rw [performAll_cons, ← hc]
    rfl

theorem runDue_is_run (limit fuel : Nat) (s : Service σ) :
    ∃ ops, runDue nextFire? (fireNext driver) limit fuel s = performAll driver s ops := by
  induction fuel generalizing s with
  | zero => exact ⟨[], rfl⟩
  | succ fuel ih =>
    unfold runDue
    cases nextFire? s with
    | none => exact ⟨[], rfl⟩
    | some t =>
      dsimp only
      split
      · obtain ⟨first, h₁⟩ := fireNext_is_run driver s
        obtain ⟨rest, h₂⟩ := ih (fireNext driver s)
        exact ⟨first ++ rest, by rw [performAll_append, ← h₁, h₂]⟩
      · exact ⟨[], rfl⟩

/-- Whatever happens while time passes is a run. -/
theorem advance_is_run (millis : Nat) (s : Service σ) :
    ∃ ops, advance driver millis s = performAll driver s ops := by
  obtain ⟨ops, h⟩ := runDue_is_run driver (s.site.now + millis) (s.fuel millis) s
  obtain ⟨op, hc⟩ := clockTo_is_run driver (s.site.now + millis) (performAll driver s ops)
  refine ⟨ops ++ [op], ?_⟩
  rw [performAll_append, performAll_cons, ← hc, ← h]
  rfl

end FieldGateway.Service
