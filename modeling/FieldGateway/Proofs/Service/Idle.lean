import FieldGateway.Proofs.Service.Management
import FieldGateway.Proofs.Service.Run
import FieldGateway.Proofs.Sampling.Answers

/-
  What is done without reading a device and without publishing an event. `Uncounted p` relates
  services with the same counters, of which the second has the trace of the first with effects of
  the kind `p` on top. `Idle` is the strictest of them: management, reports, timers, and whatever
  leads up to a reading stay within it. Most of that also leaves the profiles, the devices, their
  commands and all settings as they are (`Still`). Commands that write and probes read devices, but
  they count nothing and publish nothing (`Unsent`); a command that reads publishes nothing as long
  as nobody does so for it (`Unpublished`).
-/

namespace FieldGateway

namespace Effect

/-- A reading of the driver, whatever it answered. -/
def isRead : Effect → Bool
  | .driver (.read ..) => true
  | _ => false

/-- No reading of the driver, and no event. -/
def isIdle (e : Effect) : Bool := !e.isRead && !e.isEvent

theorem isIdle_iff (e : Effect) : e.isIdle = true ↔ e.isRead = false ∧ e.isEvent = false := by
  simp [isIdle]

end Effect

namespace Service

open FieldGateway.Action

variable {σ : Type} {s t u : Service σ}

/-- Nothing is counted, and what is put on record is of one kind. -/
structure Uncounted (p : Effect → Prop) (s t : Service σ) : Prop where
  noting : Noting p s t
  metrics : t.controller.metrics = s.controller.metrics
  publisher : t.controller.publisher = s.controller.publisher

namespace Uncounted

variable {p q : Effect → Prop}

theorem refl (s : Service σ) : Uncounted p s s := ⟨.of_eq rfl, rfl, rfl⟩

theorem trans (h : Uncounted p s t) (h' : Uncounted p t u) : Uncounted p s u where
  noting := h.noting.trans h'.noting
  metrics := h'.metrics.trans h.metrics
  publisher := h'.publisher.trans h.publisher

theorem mono (h : Uncounted p s t) (hpq : ∀ e, p e → q e) : Uncounted q s t :=
  ⟨h.noting.mono hpq, h.metrics, h.publisher⟩

instance : Std.Refl (Uncounted (σ := σ) p) := ⟨refl⟩

instance : IsTrans (Service σ) (Uncounted p) := ⟨fun _ _ _ => trans⟩

theorem of_controller (h : Noting p s t) (controller : t.controller = s.controller) :
    Uncounted p s t :=
  ⟨h, by rw [controller], by rw [controller]⟩

end Uncounted

/-- No device is read, no event is published, and nothing is counted. -/
abbrev Idle : Service σ → Service σ → Prop := Uncounted (·.isIdle)

/-- Devices may be read, but no event is published, and nothing is counted. -/
abbrev Unsent : Service σ → Service σ → Prop := Uncounted (·.isEvent = false)

/-- Besides, the profiles, the devices, their commands and the settings are as they were. -/
structure Still (s t : Service σ) : Prop extends Uncounted (·.isIdle) s t where
  registry : t.site.registry = s.site.registry
  indexes : t.site.indexes = s.site.indexes
  config : t.controller.config = s.controller.config
  transforms : t.controller.transforms = s.controller.transforms

namespace Still

theorem refl (s : Service σ) : Still s s := ⟨.refl s, rfl, rfl, rfl, rfl⟩

theorem trans (h : Still s t) (h' : Still t u) : Still s u where
  toUncounted := h.toUncounted.trans h'.toUncounted
  registry := h'.registry.trans h.registry
  indexes := h'.indexes.trans h.indexes
  config := h'.config.trans h.config
  transforms := h'.transforms.trans h.transforms

instance : Std.Refl (Still (σ := σ)) := ⟨refl⟩

instance : IsTrans (Service σ) Still := ⟨fun _ _ _ => trans⟩

/-! ## Building blocks -/

theorem ofSite (noting : Noting (·.isIdle) s t) (controller : t.controller = s.controller)
    (registry : t.site.registry = s.site.registry) (indexes : t.site.indexes = s.site.indexes) :
    Still s t :=
  ⟨.of_controller noting controller, registry, indexes, by rw [controller], by rw [controller]⟩

/-- What the controller changes besides. -/
theorem besides {f : Controller → Controller}
    (h : ∀ c, ((f c).metrics, (f c).publisher, (f c).config, (f c).transforms) =
      (c.metrics, c.publisher, c.config, c.transforms)) :
    Within Still (changeController f : Action σ Unit) := fun s => by
  simp only [Prod.mk.injEq] at h
  obtain ⟨metrics, publisher, config, transforms⟩ := h s.controller
  exact ⟨⟨.of_eq rfl, metrics, publisher⟩, rfl, rfl, config, transforms⟩

theorem site {f : Site σ → Site σ}
    (h : ∀ x, ((f x).trace, (f x).registry, (f x).indexes) = (x.trace, x.registry, x.indexes)) :
    Within Still (changeSite f) := fun s => by
  simp only [Prod.mk.injEq] at h
  obtain ⟨trace, registry, indexes⟩ := h s.site
  exact ofSite (.of_eq trace) rfl registry indexes

theorem note {e : Effect} (h : e.isIdle = true) :
    Within Still (changeSite (σ := σ) (Site.note e)) :=
  fun _ => ofSite (.one rfl h) rfl rfl rfl

theorem announce (source : String) {a : Int64 → Announcement}
    (h : ∀ now, (Effect.announced source (a now)).isIdle = true) :
    Within Still (announce (σ := σ) source a) :=
  fun _ => ofSite (.one rfl (h _)) rfl rfl rfl

theorem report {e : Effect} (h : e.isIdle = true) : Within Still (report (σ := σ) e) :=
  report_within (note h)

/-! ## Timers and probes -/

theorem setTimer (rhythm : Timer.Rhythm) (task : Task) :
    Within Still (setTimer (σ := σ) rhythm task) :=
  .bind .get fun _ => .bind (site fun _ => rfl) fun _ => .bind (besides fun _ => rfl) fun _ =>
    .pure _

theorem retireTimer (number : Nat) : Within Still (retireTimer (σ := σ) number) :=
  besides fun _ => rfl

theorem forgetProbe (name : String) : Within Still (forgetProbe (σ := σ) name) :=
  besides fun _ => rfl

theorem cancelProbe (name : String) : Within Still (cancelProbe (σ := σ) name) :=
  cancelProbe_within name (forgetProbe name) retireTimer

theorem changeLifecycle (number : Nat) (l : Timer.Lifecycle) :
    Within Still (changeLifecycle (σ := σ) number l) :=
  besides fun _ => rfl

theorem settleTimer (number fired : Nat) (control : Timer.Control) :
    Within Still (settleTimer (σ := σ) number fired control) :=
  settleTimer_within number fired control (site fun _ => rfl) fun _ => besides fun _ => rfl

/-! ## Reports -/

theorem reporting (d : Device) : Reporting d (Still (σ := σ)) where
  enter _ _ := .ofSite (.one rfl rfl) rfl rfl rfl
  sayUp := announce _ fun _ => rfl
  sayDown _ := announce _ fun _ => rfl
  report _ := report rfl
  arm := armProbe_within d.name (fun _ => setTimer _ _) fun _ => besides fun _ => rfl
  cancel := cancelProbe d.name

theorem reportSuccess (d : Device) : Within Still (reportSuccess (σ := σ) d) :=
  (reporting d).success

theorem reportFailure (d : Device) (reason : String) :
    Within Still (reportFailure (σ := σ) d reason) :=
  (reporting d).failure reason

theorem forceDown (d : Device) (reason : String) : Within Still (forceDown (σ := σ) d reason) :=
  (reporting d).violation reason

theorem violated (d : Device) (reason : String) : Within Still (violated (σ := σ) d reason) :=
  violated_within (forceDown d reason)

theorem driverFailed (d : Device) (e : DriverError) :
    Within Still (driverFailed (σ := σ) d e) :=
  driverFailed_within (reportFailure d) (forceDown d) e

theorem touch (d : Device) : Within Still (touch (σ := σ) d) := touch_within (note rfl)

/-! ## Work that asks for no reading -/

variable (driver : Driver σ)

theorem makeAddress (d : Device) : Within Still (onSite (Site.address driver d)) := fun s => by
  rw [after_onSite]
  rcases s.site.address_cases driver d with ⟨a, _, h⟩ | ⟨_, outcome, state, _, h⟩
  · rw [h]
    exact .refl s
  · rw [h]
    cases outcome <;> exact .ofSite (.one rfl rfl) rfl rfl rfl

theorem address (d : Device) : Within Still (address driver d) :=
  address_within (makeAddress driver d) (reportFailure d)

theorem write (d : Device) (a : Address) (requests : List Request) (values : List Value) :
    Within Still (onSite (Site.write driver d a requests values)) :=
  fun _ => .ofSite (.one rfl rfl) rfl rfl rfl

theorem cook (d : Device) (c : Command) (results : List Result) :
    Within Still (cook (σ := σ) d c results) :=
  .bind .get fun _ => .bind (site fun _ => rfl) fun _ => .pure _

theorem endProbe (d : Device) (answer : Except DriverError (List Result)) :
    Within Still (endProbe (σ := σ) d answer) := by
  cases answer with
  | error e => exact .pure _
  | ok results => exact .bind (reportSuccess d) fun _ => .pure _

/-! ## Sampling -/

theorem changeSampler (number : Nat) (f : Sampler → Sampler) :
    Within Still (changeSampler (σ := σ) number f) :=
  besides fun _ => rfl

theorem launch (d : Device) (c : Command) (number : Nat) (r : Sampler) :
    Within Still (launch driver d c number r) :=
  launch_within d c number r (setTimer _ _) (fun _ _ => .ofSite (.one rfl rfl) rfl rfl rfl)
    fun _ => changeSampler _ _

theorem scheduling : Scheduling driver (Still (σ := σ)) where
  take _ := .bind .get fun _ => .bind (besides fun _ => rfl) fun _ => .pure _
  stop number := stopSampler_within number (changeSampler _ _) retireTimer
    fun _ _ _ => .ofSite (.one rfl rfl) rfl rfl rfl
  add _ _ _ := .bind .get fun _ => .bind (besides fun _ => rfl) fun _ => .pure _
  launched d c number := launched_within d c number (launch driver d c number)
  hold _ _ := besides fun _ => rfl

theorem stopAutoEvents (device : String) : Within Still (stopAutoEvents driver device) :=
  (scheduling driver).stopAutoEvents device

/-! ## Management -/

theorem setAdminState (name : String) (state : AdminState) :
    Within Still (setAdminState (σ := σ) name state) := by
  refine withDevice_within (fun d => site ?_) name
  exact fun _ => rfl

theorem setServiceAdminState (state : AdminState) :
    Within Still (setServiceAdminState (σ := σ) state) :=
  besides fun _ => rfl

theorem announceCounters : Within Still (announceCounters (σ := σ)) :=
  announceCounters_within fun _ _ => announce _ fun _ => rfl

theorem startCounters : Within Still (startCounters (σ := σ)) :=
  startCounters_within (fun _ => setTimer _ _) (fun _ => besides fun _ => rfl) retireTimer

theorem stop (force : Bool) : Within Still (stop driver force) :=
  stop_within force (besides fun _ => rfl) (scheduling driver).stopAllAutoEvents
    (cancelAllProbes_within retireTimer (besides fun _ => rfl)) (besides fun _ => rfl) retireTimer
    fun _ => .ofSite (.one rfl rfl) rfl rfl rfl

theorem unread (h : Still s t) : Noting (·.isRead = false) s t :=
  h.noting.mono fun e he => ((Effect.isIdle_iff e).1 he).1

end Still

namespace Idle

theorem unsent (h : Idle s t) : Unsent s t := h.mono fun e he => ((Effect.isIdle_iff e).1 he).2

theorem unread (h : Idle s t) : Noting (·.isRead = false) s t :=
  h.noting.mono fun e he => ((Effect.isIdle_iff e).1 he).1

theorem of_still {α : Type} {a : Action σ α} (h : Within Still a) : Within Idle a :=
  fun s => (h s).toUncounted

variable (driver : Driver σ)

/-! ## Commands of a device -/

theorem index (r : Registration) : Within Idle (onSite (Site.index driver r)) :=
  fun s => .of_controller (index_noting driver r (fun _ => rfl) s) rfl

theorem authorize (device command : String) (m : Method) :
    Within Idle (authorize driver device command m) :=
  authorize_within (index driver) device command m

theorem beginProbe (name : String) : Within Idle (beginProbe driver name) :=
  beginProbe_within name (of_still (Still.forgetProbe name)) (index driver)

/-! ## Profiles, devices, and the start -/

theorem startAutoEvents (device : String) : Within Idle (startAutoEvents driver device) :=
  ((Still.scheduling driver).mono of_still).startAutoEvents (index driver) device

theorem sampleRegistered (registered : Except DeviceError Device) :
    Within Idle (sampleRegistered driver registered) :=
  sampleRegistered_within (startAutoEvents driver) registered

theorem start : Within Idle (start driver) :=
  start_within (fun _ => .of_controller (.one rfl rfl) rfl) (startAutoEvents driver)
    (of_still Still.startCounters) (of_still (Still.besides fun _ => rfl))

theorem register {f : Site σ → Site σ} (h : ∀ x, (f x).trace = x.trace) :
    Within Idle (changeSite f) :=
  fun s => .of_controller (.of_eq (h s.site)) rfl

theorem addProfile (p : Profile) : Within Idle (addProfile (σ := σ) p) :=
  addProfile_within p fun _ => register fun _ => rfl

theorem removeProfile (name : String) : Within Idle (removeProfile (σ := σ) name) :=
  removeProfile_within name fun _ => register fun _ => rfl

theorem insertDevice (config : DeviceConfig) : Within Idle (insertDevice driver config) := by
  refine .bind .get fun s => .ite (.pure _) ?_
  cases incarnation driver s config with
  | error e => exact .pure _
  | ok d =>
    dsimp only
    cases s.site.registry.insertDevice d with
    | error e => exact .pure _
    | ok registry =>
      exact .bind (register fun _ => rfl) fun _ =>
        .bind (of_still (Still.announce _ fun _ => rfl)) fun _ =>
          .bind (fun _ => .of_controller (.one rfl rfl) rfl) fun _ => .pure _

theorem replaceDevice (config : DeviceConfig) : Within Idle (replaceDevice driver config) := by
  refine .bind .get fun s => ?_
  cases s.device? config.name with
  | none => exact .pure _
  | some old =>
    dsimp only
    cases incarnation driver s config with
    | error e => exact .pure _
    | ok d =>
      dsimp only
      cases s.site.registry.replaceDevice d with
      | error e => exact .pure _
      | ok registry =>
        exact .bind (register fun _ => rfl) fun _ =>
          .bind (fun _ => .of_controller (.one rfl rfl) rfl) fun _ => .pure _

theorem dropDevice (name : String) : Within Idle (dropDevice driver name) := by
  refine .bind .get fun s => ?_
  cases s.site.registry.removeDevice name with
  | error e => exact .pure _
  | ok registry =>
    exact .bind (register fun _ => rfl) fun _ =>
      .bind (of_still (Still.announce _ fun _ => rfl)) fun _ =>
        .bind (fun _ => .of_controller (.one rfl rfl) rfl) fun _ => .pure _

end Idle

/-! ## Operations -/

/-- No command, no results of the driver's own, and no timer. -/
def Operation.isManagement : Operation σ → Bool
  | .deviceCommand .. | .execute _ | .postReadings .. | .fire _ => false
  | _ => true

variable (driver : Driver σ)

theorem perform_idle {op : Operation σ} (h : op.isManagement = true) (s : Service σ) :
    Idle s (perform driver s op) := by
  cases op with
  | addProfile p => exact Idle.addProfile p s
  | removeProfile name => exact Idle.removeProfile name s
  | addDevice config =>
    exact Within.bind (Idle.insertDevice driver config) (Idle.sampleRegistered driver) s
  | updateDevice config =>
    exact Within.bind (Idle.replaceDevice driver config) (Idle.sampleRegistered driver) s
  | removeDevice name =>
    exact Within.bind (Idle.of_still (Still.stopAutoEvents driver name))
      (fun _ => .bind (Idle.of_still (Still.cancelProbe name)) fun _ =>
        Idle.dropDevice driver name) s
  | setAdminState name state => exact (Still.setAdminState name state s).toUncounted
  | setServiceAdminState state => exact (Still.setServiceAdminState state s).toUncounted
  | noteSuccess name => exact (withDevice_within Still.reportSuccess name s).toUncounted
  | noteFailure name reason =>
    exact (withDevice_within (Still.reportFailure · reason) name s).toUncounted
  | startAutoEvents name => exact Idle.startAutoEvents driver name s
  | stopAutoEvents name => exact (Still.stopAutoEvents driver name s).toUncounted
  | start => exact Idle.start driver s
  | stop force => exact (Still.stop driver force s).toUncounted
  | pass millis timeOfDay => exact .of_controller (.of_eq rfl) rfl
  | change f => exact .of_controller (.of_eq rfl) rfl
  | deviceCommand | execute | postReadings | fire => cases h

variable {driver} in
/-- A timer fires within whatever its task and still steps are within. -/
theorem fireTimer_of_still {R : Service σ → Service σ → Prop} [Std.Refl R] [IsTrans (Service σ) R]
    (still : ∀ {a : Action σ Unit}, Within Still a → Within R a) {timer : Nat} {s : Service σ}
    (runs : ∀ task, s.taskOf timer = some task → Within R (run driver task)) :
    R s ((fireTimer driver timer).after s) :=
  fireTimer_within (fun _ => still (Still.changeLifecycle _ _))
    (fun _ _ => still (Still.settleTimer _ _ _))
    fun x hx => runs x.task (by rw [taskOf, hx, Option.map_some])

/-- Asking a device is still, the reading apart. -/
theorem asking_of_still {R : Service σ → Service σ → Prop} {d : Device}
    (still : ∀ {α : Type} {a : Action σ α}, Within Still a → Within R a)
    (read : ∀ a requests, Within R (onSite (Site.read driver d a requests))) :
    Asking driver d R where
  address := still (Still.makeAddress driver d)
  read := read
  success := still (Still.reportSuccess d)
  failure reason := still (Still.reportFailure d reason)
  violation reason := still (Still.forceDown d reason)
  touch := still (Still.touch d)

/-! ## Reading without counting -/

namespace Unsent

theorem of_idle {α : Type} {a : Action σ α} (h : Within Idle a) : Within Unsent a :=
  fun s => (h s).unsent

theorem of_still {α : Type} {a : Action σ α} (h : Within Still a) : Within Unsent a :=
  of_idle (Idle.of_still h)

theorem read (d : Device) (a : Address) (requests : List Request) :
    Within Unsent (onSite (Site.read driver d a requests)) :=
  fun _ => .of_controller (.one rfl rfl) rfl

theorem asking (d : Device) : Asking driver d (Unsent (σ := σ)) :=
  asking_of_still driver of_still (read driver d)

theorem runPut (device command : String) (params : Params) :
    Within Unsent (runPut driver device command params) := by
  refine .bind (of_idle (Idle.authorize driver device command .put)) fun found => ?_
  cases found with
  | error e => exact .pure _
  | ok p =>
    refine .bind .get fun s => ?_
    cases s.intake.values params p.2.steps with
    | error e => exact .pure _
    | ok values =>
      exact (asking driver p.1).write (fun a requests values =>
        of_still (Still.write driver p.1 a requests values)) p.2 values

theorem answerPut (device command : String) (params : Params) :
    Within Unsent (answerPut driver device command params) := by
  refine .bind (runPut driver device command params) fun outcome => ?_
  cases outcome <;> exact .pure _

theorem probe (name : String) : Within Unsent (probe driver name) := by
  refine .bind (of_idle (Idle.beginProbe driver name)) fun found => ?_
  cases found with
  | none => exact .pure _
  | some p =>
    exact .bind ((asking driver p.1).ask p.2.requests) fun answer =>
      of_still (Still.endProbe p.1 answer)

end Unsent

/-- Reads may be counted, but no event is published. -/
abbrev Unpublished : Service σ → Service σ → Prop := Noting (·.isEvent = false)

namespace Unpublished

theorem of_still {α : Type} {a : Action σ α} (h : Within Still a) : Within Unpublished a :=
  fun s => (Unsent.of_still h s).noting

theorem runGet (device command : String) : Within Unpublished (runGet driver device command) := by
  refine .bind (fun s => (Idle.authorize driver device command .get s).unsent.noting)
    fun found => ?_
  cases found with
  | error e => exact .pure _
  | ok p =>
    dsimp only
    cases p.2.unreadable? with
    | some resource => exact .pure _
    | none =>
      have asking : Asking driver p.1 (Unpublished (σ := σ)) :=
        asking_of_still driver of_still fun _ _ _ => .one rfl rfl
      have cook (results) : Within Unpublished (cook (σ := σ) p.1 p.2 results) :=
        of_still (Still.cook p.1 p.2 results)
      exact .bind (asking.readCooked (fun _ => .of_eq rfl) p.2 cook) fun _ => .pure _

end Unpublished

end Service

end FieldGateway
