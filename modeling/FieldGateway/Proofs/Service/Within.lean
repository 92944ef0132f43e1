import FieldGateway.Proofs.Service.Action

/-
  Actions within a preorder, part by part. For each action that is made of others, one lemma says
  what it takes of its parts for the whole to be within a preorder `R` of services: the cases of the
  action are gone through here, and nowhere else. Parts that are needed together have a name: what
  a report on a device is made of (`Reporting`), what asking a device takes (`Inquiring`, `Asking`),
  and what starting (`Launching`) and stopping samplers takes (`Scheduling`).
-/

namespace FieldGateway.Service

open FieldGateway.Action

variable {σ : Type} {R : Service σ → Service σ → Prop} [Std.Refl R] [IsTrans (Service σ) R]

/-! ## Timers and probes -/

theorem settleTimer_within (number fired : Nat) (control : Timer.Control)
    (wait : Within R (changeSite fun site => { site with waits := site.waits + 1 }))
    (change : ∀ f, Within R (changeController fun c =>
      { c with timers := c.timers.modify number f })) :
    Within R (settleTimer number fired control) := by
  refine .bind .get fun s => ?_
  cases s.controller.timers.get? number with
  | none => exact .pure _
  | some t => exact .bind wait fun _ => change _

theorem armProbe_within (name : String)
    (set : ∀ rhythm, Within R (setTimer rhythm (.probe name)))
    (hold : ∀ number, Within R (changeController fun c =>
      { c with probes := c.probes.insert name number })) :
    Within R (armProbe name) := by
  refine .bind .get fun s => ?_
  cases s.controller.config.downTimeout? with
  | none => exact .pure _
  | some delay => exact .ite (.pure _) (.bind (set _) hold)

theorem cancelProbe_within (name : String) (forget : Within R (forgetProbe name))
    (retire : ∀ number, Within R (retireTimer number)) : Within R (cancelProbe name) := by
  refine .bind .get fun s => ?_
  cases s.controller.probes.find? name with
  | none => exact .pure _
  | some number => exact .bind forget fun _ => retire number

theorem cancelAllProbes_within (retire : ∀ number, Within R (retireTimer number))
    (clear : Within R (changeController fun c => { c with probes := ∅ })) :
    Within R cancelAllProbes :=
  .bind .get fun _ => .bind (.forM retire) fun _ => clear

/-! ## Reports -/

theorem report_within {e : Effect} (note : Within R (changeSite (Site.note e))) :
    Within R (report e) :=
  .bind .get fun _ => .ite note (.pure _)

theorem touch_within {d : Device}
    (note : Within R (changeSite (Site.note (.connectionReported d.name)))) : Within R (touch d) :=
  .bind .get fun _ => .ite (report_within note) (.pure _)

/-- What a report on a device is made of: it is entered, and if the device went down or came up,
that is said, and a probe is armed or cancelled. -/
structure Reporting (d : Device) (R : Service σ → Service σ → Prop) : Prop where
  enter (r : Report) : Within R (enter d r)
  sayUp : Within R (announce healthSource (.deviceUp d.name))
  sayDown (reason : String) : Within R (announce healthSource (.deviceDown d.name (some reason)))
  report (state : OperatingState) : Within R (report (.stateReported d.name state))
  arm : Within R (armProbe d.name)
  cancel : Within R (cancelProbe d.name)

namespace Reporting

variable {d : Device} (h : Reporting d R)

include h

omit [Std.Refl R] in
theorem wentDown (reason : String) : Within R (wentDown d reason) :=
  .bind (h.sayDown reason) fun _ => .bind (h.report .down) fun _ => h.arm

theorem success : Within R (reportSuccess d) :=
  .bind (h.enter .success) fun _ =>
    .ite (.bind h.cancel fun _ => .bind h.sayUp fun _ => h.report .up) (.pure _)

theorem failure (reason : String) : Within R (reportFailure d reason) :=
  .bind (h.enter .failure) fun _ => .ite (h.wentDown reason) (.pure _)

theorem violation (reason : String) : Within R (forceDown d reason) :=
  .bind (h.enter .violation) fun _ => .ite (h.wentDown reason) (.pure _)

end Reporting

theorem violated_within {d : Device} {reason : String} (violation : Within R (forceDown d reason)) :
    Within R (violated d reason) :=
  .bind violation fun _ => .pure _

theorem driverFailed_within {d : Device} (failure : ∀ reason, Within R (reportFailure d reason))
    (violation : ∀ reason, Within R (forceDown d reason)) (e : DriverError) :
    Within R (driverFailed d e) := by
  cases e with
  | assertionFailed reason => exact violated_within (violation reason)
  | _ => exact .bind (failure _) fun _ => .pure _

/-! ## Asking the driver -/

variable {driver : Driver σ} {d : Device}

theorem address_within (make : Within R (onSite (Site.address driver d)))
    (failure : ∀ reason, Within R (reportFailure d reason)) : Within R (address driver d) := by
  refine .bind make fun found => ?_
  cases found with
  | ok a => exact .pure _
  | error e => exact .bind (failure e.message) fun _ => .pure _

theorem ask_within (make : Within R (onSite (Site.address driver d)))
    (read : ∀ a requests, Within R (onSite (Site.read driver d a requests)))
    (requests : List Request) : Within R (ask driver d requests) := by
  refine .bind make fun found => ?_
  cases found with
  | error e => exact .pure _
  | ok a => exact read a requests

/-- What is merged is read by one address. -/
theorem mergeMasked_within {a : Address}
    (read : ∀ requests, Within R (onSite (Site.read driver d a requests)))
    (driverFailed : ∀ e, Within R (driverFailed d e))
    (failure : ∀ reason, Within R (reportFailure d reason))
    (violated : ∀ reason, Within R (violated d reason)) (request : Request) (mask : Mask)
    (value : Value) : Within R (mergeMasked driver d a request mask value) := by
  refine .bind (read [request]) fun outcome => ?_
  match outcome with
  | .error e => exact .bind (driverFailed e) fun _ => .pure _
  | .ok [current] =>
    dsimp only
    cases mask.mergeValues current.value value with
    | some merged => exact .pure _
    | none => exact .bind (failure _) fun _ => .pure _
  | .ok [] => exact .bind (violated _) fun _ => .pure _
  | .ok (_ :: _ :: _) => exact .bind (violated _) fun _ => .pure _

theorem merged_within {a : Address}
    (merge : ∀ request mask value, Within R (mergeMasked driver d a request mask value))
    (pairs : List (Request × Value)) : Within R (merged driver d a pairs) := by
  induction pairs with
  | nil => exact .pure _
  | cons pair rest ih =>
    obtain ⟨request, value⟩ := pair
    unfold Service.merged
    cases request.mask with
    | none => exact .pure_bind (.bind ih fun _ => .pure _)
    | some mask =>
      refine .bind (merge request mask value) fun first => ?_
      cases first with
      | error e => exact .pure _
      | ok v => exact .bind ih fun _ => .pure _

/-- What asking a device takes that need not answer: an address, a reading, and the report that
there is no answer. -/
structure Inquiring (driver : Driver σ) (d : Device) (R : Service σ → Service σ → Prop) :
    Prop where
  address : Within R (onSite (Site.address driver d))
  read (a : Address) (requests : List Request) : Within R (onSite (Site.read driver d a requests))
  failure (reason : String) : Within R (reportFailure d reason)
  violation (reason : String) : Within R (forceDown d reason)

/-- What asking a device takes, with the report that it answered. -/
structure Asking (driver : Driver σ) (d : Device) (R : Service σ → Service σ → Prop) : Prop
    extends Inquiring driver d R where
  success : Within R (reportSuccess d)
  touch : Within R (touch d)

namespace Inquiring

variable (h : Inquiring driver d R)

include h

theorem violated (reason : String) : Within R (violated d reason) :=
  violated_within (h.violation reason)

theorem driverFailed (e : DriverError) : Within R (driverFailed d e) :=
  driverFailed_within h.failure h.violation e

theorem findAddress : Within R (Service.address driver d) := address_within h.address h.failure

theorem ask (requests : List Request) : Within R (ask driver d requests) :=
  ask_within h.address h.read requests

theorem mergeMasked (a : Address) (request : Request) (mask : Mask) (value : Value) :
    Within R (mergeMasked driver d a request mask value) :=
  mergeMasked_within (h.read a) h.driverFailed h.failure h.violated request mask value

theorem merged (a : Address) (pairs : List (Request × Value)) :
    Within R (merged driver d a pairs) :=
  merged_within (h.mergeMasked a) pairs

end Inquiring

theorem Asking.write (h : Asking driver d R)
    (put : ∀ a requests values, Within R (onSite (Site.write driver d a requests values)))
    (c : Command) (values : List Value) : Within R (write driver d c values) := by
  refine .bind h.findAddress fun found => ?_
  cases found with
  | error e => exact .pure _
  | ok a =>
    refine .bind (h.merged a _) fun outcome => ?_
    cases outcome with
    | error e => exact .pure _
    | ok values =>
      refine .bind (put a c.requests values) fun outcome => ?_
      cases outcome with
      | error e => exact .bind (h.driverFailed e) fun _ => .pure _
      | ok _ => exact .bind h.success fun _ => .bind h.touch fun _ => .pure _

/-- What is made of the driver's answer to a reading. -/
def received (d : Device) (c : Command) (answer : Except DriverError (List Result)) :
    Action σ (Except CommandError (List Result)) :=
  match answer with
  | .error e => do return .error (← driverFailed d e)
  | .ok results =>
    if results.length = c.size then do
      reportSuccess d
      countRead
      touch d
      return .ok results
    else do
      return .error (← violated d
        (Text.natText results.length ++ " results for " ++ Text.natText c.size ++ " requests"))

theorem readRaw_eq (driver : Driver σ) (d : Device) (c : Command) :
    readRaw driver d c = address driver d >>= fun found =>
      match found with
      | .error e => pure (.error e)
      | .ok a => onSite (Site.read driver d a c.requests) >>= received d c :=
  rfl

theorem received_within (success : Within R (reportSuccess d))
    (count : Within R (countRead : Action σ Unit)) (touch : Within R (touch d))
    (driverFailed : ∀ e, Within R (driverFailed d e))
    (violated : ∀ reason, Within R (violated d reason)) (c : Command)
    (answer : Except DriverError (List Result)) : Within R (received d c answer) := by
  cases answer with
  | error e => exact .bind (driverFailed e) fun _ => .pure _
  | ok results =>
    refine .ite ?_ (.bind (violated _) fun _ => .pure _)
    exact .bind success fun _ => .bind count fun _ => .bind touch fun _ => .pure _

theorem publish_within (e : CookedEvent)
    (say : ∀ source, Within R (announce source (Announcement.ofCooked e)))
    (count : Within R (countEvent e.readingCount))
    (hand : Within R (changeSite (Site.note (.handedOver e.event.source e.readingCount)))) :
    Within R (publish e) := by
  refine .bind .get fun s => ?_
  dsimp only
  cases s.controller.publisher with
  | bus => exact .bind (say _) fun _ => count
  | own => exact hand

theorem publishResults_within {c : Command} {results : List Result}
    (cook : Within R (cook d c results)) (publish : ∀ e, Within R (publish e)) :
    Within R (publishResults d c results) := by
  refine .bind cook fun outcome => ?_
  cases outcome with
  | error e => exact .pure _
  | ok event => exact publish event

namespace Asking

variable (h : Asking driver d R) (count : Within R (countRead : Action σ Unit))

include h count

theorem readRaw (c : Command) : Within R (readRaw driver d c) := by
  rw [readRaw_eq]
  refine .bind h.findAddress fun found => ?_
  cases found with
  | error e => exact .pure _
  | ok a =>
    exact .bind (h.read a c.requests)
      (received_within h.success count h.touch h.driverFailed h.violated c)

theorem readCooked (c : Command) (cook : ∀ results, Within R (cook d c results)) :
    Within R (Service.read driver d c) := by
  refine .bind (h.readRaw count c) fun outcome => ?_
  cases outcome with
  | error e => exact .pure _
  | ok results => exact .bind (cook results) fun _ => .pure _

theorem sampleNow (number : Nat) (r : Sampler) (c : Command)
    (remember : ∀ results, Within R (changeSampler number fun r =>
      { r with snapshot := some results }))
    (publish : ∀ results, Within R (publishResults d c results)) :
    Within R (sampleNow driver number r d c) := by
  refine .bind (h.readRaw count c) fun outcome => ?_
  cases outcome with
  | error e => exact .pure _
  | ok results =>
    exact .ite (.ite (.bind (remember results) fun _ => publish results) (.pure _))
      (publish results)

end Asking

/-! ## Commands -/

theorem resolve_within (index : Within R (onSite (Site.index driver d.registration)))
    (command : String) (m : Method) : Within R (resolve driver d command m) := by
  refine .bind index fun index => ?_
  cases index.resolve? command m.direction with
  | some c => exact .pure _
  | none => exact .ite (.pure _) (.pure _)

/-- Only the commands of the device that is registered are looked up. -/
theorem authorize_at {device : String} {s : Service σ}
    (index : ∀ d, s.device? device = some d →
      Within R (onSite (Site.index driver d.registration))) (command : String) (m : Method) :
    R s ((authorize driver device command m).after s) := by
  unfold authorize
  rw [after_get_bind]
  refine Within.ite (.pure _) ?_ s
  cases hd : s.device? device with
  | none => exact .pure _
  | some d =>
    refine .bind (resolve_within (index d hd) command m) fun found => ?_
    cases found with
    | error e => exact .pure _
    | ok c =>
      refine .bind .get fun t => ?_
      cases t.obstacle? d c <;> exact .pure _

theorem authorize_within (index : ∀ r, Within R (onSite (Site.index driver r)))
    (device command : String) (m : Method) : Within R (authorize driver device command m) :=
  fun _ => authorize_at (fun _ _ => index _) command m

theorem postReadings_at {device : String} {s : Service σ}
    (index : ∀ d, s.device? device = some d →
      Within R (onSite (Site.index driver d.registration)))
    (cook : ∀ d c results, Within R (cook (σ := σ) d c results))
    (violated : ∀ d reason, Within R (violated (σ := σ) d reason))
    (publish : ∀ e, Within R (publish (σ := σ) e)) (source : String)
    (results : List Result) : R s ((postReadings driver device source results).after s) := by
  unfold postReadings
  rw [after_get_bind]
  cases hd : s.device? device with
  | none => exact Std.Refl.refl s
  | some d =>
    refine Within.ite (.pure _) (.bind (index d hd) fun index => ?_) s
    cases index.resolve? source .get with
    | none => exact .pure _
    | some c =>
      refine .ite (.bind (cook d c results) fun outcome => ?_)
        (.bind (violated d _) fun _ => .pure _)
      cases outcome with
      | error e => exact .pure _
      | ok event => exact .bind (publish event) fun _ => .pure _

theorem postReadings_within (index : ∀ r, Within R (onSite (Site.index driver r)))
    (cook : ∀ d c results, Within R (cook (σ := σ) d c results))
    (violated : ∀ d reason, Within R (violated (σ := σ) d reason))
    (publish : ∀ e, Within R (publish (σ := σ) e)) (device source : String)
    (results : List Result) : Within R (postReadings driver device source results) :=
  fun _ => postReadings_at (fun _ _ => index _) cook violated publish source results

/-! ## Samplers -/

theorem sample_within (index : ∀ r, Within R (onSite (Site.index driver r))) (number : Nat)
    (now : ∀ r d c, Within R (sampleNow driver number r d c)) :
    Within R (sample driver number) := by
  refine .bind .get fun s => ?_
  cases s.controller.samplers.get? number with
  | none => exact .pure _
  | some r =>
    dsimp only
    cases s.device? r.device with
    | none => exact .pure _
    | some d =>
      refine .ite (.pure _) (.bind (index _) fun index => ?_)
      cases index.resolve? r.source .get with
      | none => exact .pure _
      | some c => exact .bind (now r d c) fun _ => .pure _

theorem stopSampler_within (number : Nat)
    (off : Within R (changeSampler number fun r => { r with schedule := none }))
    (retire : ∀ timer, Within R (retireTimer timer))
    (stop : ∀ sampling handle, Within R (changeSite (Site.stopSampling sampling handle))) :
    Within R (stopSampler driver number) := by
  refine .bind (.bind .get fun _ => .bind off fun _ => .pure _) fun schedule => ?_
  match schedule with
  | none => exact .pure _
  | some (.timer timer) => exact retire timer
  | some (.driver handle) =>
    dsimp only
    cases driver.sampling with
    | none => exact .pure _
    | some sampling => exact stop sampling handle

theorem launch_within (d : Device) (c : Command) (number : Nat) (r : Sampler)
    (set : Within R (setTimer (.periodic r.interval) (.sample number)))
    (start : ∀ sampling, Within R (onSite
      (Site.startSampling sampling d r.source c.requests r.interval r.onChange)))
    (schedule : ∀ x, Within R (changeSampler number fun r => { r with schedule := some x })) :
    Within R (launch driver d c number r) := by
  unfold launch
  cases driver.sampling with
  | none => exact .bind set fun timer => schedule _
  | some sampling =>
    refine .bind (start sampling) fun outcome => ?_
    cases outcome with
    | ok handle => exact schedule _
    | error e => exact .pure _

theorem launched_within (d : Device) (c : Command) (number : Nat)
    (launch : ∀ r, Within R (launch driver d c number r)) :
    Within R (launched driver d c number) := by
  refine .bind .get fun s => ?_
  dsimp only
  cases s.controller.samplers.get? number with
  | none => exact .pure _
  | some r => exact .bind (launch r) fun _ => .pure _

/-- What starting samplers takes: each is a new one or one from before, and is launched. -/
structure Launching (driver : Driver σ) (R : Service σ → Service σ → Prop) : Prop where
  add (device : String) (a : AutoEvent) (interval : Duration) :
    Within R (addSampler device a interval)
  launched (d : Device) (c : Command) (number : Nat) : Within R (launched driver d c number)

namespace Launching

variable (h : Launching driver R) (index : Within R (onSite (Site.index driver d.registration)))

include h index

theorem startSampler (previous : List Nat) (a : AutoEvent) :
    Within R (startSampler driver d previous a) := by
  unfold Service.startSampler
  cases Duration.interval? a.interval with
  | none => exact .pure _
  | some interval =>
    refine .bind (.bind index fun _ => .pure _) fun command => ?_
    cases command with
    | none => exact .pure _
    | some c =>
      refine .bind .get fun s => ?_
      cases s.fitting? previous a interval with
      | some number => exact .bind (.pure _) (h.launched d c)
      | none => exact .bind (h.add _ _ _) (h.launched d c)

theorem startSamplers (previous : List Nat) (autoEvents : List AutoEvent) :
    Within R (startSamplers driver d previous autoEvents) := by
  induction autoEvents with
  | nil => exact .pure _
  | cons a rest ih =>
    exact .bind (h.startSampler index previous a) fun _ => .bind ih fun _ => .pure _

end Launching

theorem stopAutoEvents_within {device : String} (take : Within R (takeSamplers device))
    (stop : ∀ number, Within R (stopSampler driver number)) :
    Within R (stopAutoEvents driver device) :=
  .bind take fun _ => .forM stop

theorem stopAllAutoEvents_within (stop : ∀ device, Within R (stopAutoEvents driver device)) :
    Within R (stopAllAutoEvents driver) :=
  .bind .get fun _ => .forM stop

/-- What starting and stopping the samplers of devices takes. -/
structure Scheduling (driver : Driver σ) (R : Service σ → Service σ → Prop) : Prop
    extends Launching driver R where
  take (device : String) : Within R (takeSamplers device)
  stop (number : Nat) : Within R (stopSampler driver number)
  hold (device : String) (numbers : List Nat) : Within R (changeController fun c =>
    { c with sampling := c.sampling.insert device numbers })

namespace Scheduling

omit [Std.Refl R] [IsTrans (Service σ) R] in
theorem mono {R' : Service σ → Service σ → Prop} (h : Scheduling driver R)
    (wider : ∀ {α : Type} {a : Action σ α}, Within R a → Within R' a) : Scheduling driver R' where
  take device := wider (h.take device)
  stop number := wider (h.stop number)
  add device a interval := wider (h.add device a interval)
  launched d c number := wider (h.launched d c number)
  hold device numbers := wider (h.hold device numbers)

variable (h : Scheduling driver R)

include h

/-- The sampling of a device starts all over. -/
theorem restart (index : Within R (onSite (Site.index driver d.registration))) (device : String) :
    Within R (do
      let previous ← takeSamplers device
      previous.forM (stopSampler driver)
      let numbers ← Service.startSamplers driver d previous d.autoEvents
      if numbers ≠ [] then
        changeController fun c => { c with sampling := c.sampling.insert device numbers }) :=
  .bind (h.take device) fun previous => .bind (.forM h.stop) fun _ =>
    .bind (h.toLaunching.startSamplers index previous d.autoEvents) fun numbers =>
      .ite (h.hold device numbers) (.pure _)

theorem startAutoEvents_at {device : String} {s : Service σ}
    (index : ∀ d, s.device? device = some d →
      Within R (onSite (Site.index driver d.registration))) :
    R s ((Service.startAutoEvents driver device).after s) := by
  unfold Service.startAutoEvents
  rw [after_get_bind]
  cases hd : s.device? device with
  | none => exact Std.Refl.refl s
  | some d => exact h.restart (index d hd) device s

theorem startAutoEvents (index : ∀ r, Within R (onSite (Site.index driver r))) (device : String) :
    Within R (startAutoEvents driver device) :=
  fun _ => h.startAutoEvents_at fun _ _ => index _

theorem stopAutoEvents (device : String) : Within R (stopAutoEvents driver device) :=
  stopAutoEvents_within (h.take device) h.stop

theorem stopAllAutoEvents : Within R (stopAllAutoEvents driver) :=
  stopAllAutoEvents_within h.stopAutoEvents

end Scheduling

theorem sampleRegistered_within (start : ∀ device, Within R (startAutoEvents driver device))
    (registered : Except DeviceError Device) : Within R (sampleRegistered driver registered) := by
  cases registered with
  | error e => exact .pure _
  | ok d => exact .bind .get fun _ => .ite (.bind (start d.name) fun _ => .pure _) (.pure _)

/-! ## Management -/

theorem addProfile_within (p : Profile) (add : ∀ registry, Within R (changeSite fun site =>
      { site with registry, indexes := site.indexes.add none })) :
    Within R (addProfile p) := by
  refine .bind .get fun s => ?_
  dsimp only
  cases s.site.registry.addProfile s.site.indexes.next p with
  | error e => exact .pure _
  | ok registry => exact .bind (add registry) fun _ => .pure _

theorem removeProfile_within (name : String) (change : ∀ r, Within R (changeRegistry r)) :
    Within R (removeProfile name) := by
  refine .bind .get fun s => ?_
  cases s.site.registry.removeProfile name with
  | error e => exact .pure _
  | ok registry => exact .bind (change registry) fun _ => .pure _

theorem withDevice_within {step : Device → Action σ Unit} (h : ∀ d, Within R (step d))
    (name : String) : Within R (withDevice name step) := by
  refine .bind .get fun s => ?_
  cases s.device? name with
  | none => exact .pure _
  | some d => exact .bind (h d) fun _ => .pure _

theorem startCounters_within (set : ∀ rhythm, Within R (setTimer rhythm .counters))
    (hold : ∀ number, Within R (changeController fun c => { c with countersTimer := some number }))
    (retire : ∀ number, Within R (retireTimer number)) : Within R startCounters := by
  refine .bind .get fun s => ?_
  dsimp only
  cases s.controller.config.metricsInterval? with
  | none => exact .pure _
  | some interval =>
    refine .bind (set _) fun number => .bind (hold number) fun _ => ?_
    cases s.controller.countersTimer with
    | none => exact .pure _
    | some previous => exact retire previous

theorem start_within (prepare : Within R (onSite (Site.prepare driver)))
    (sample : ∀ device, Within R (startAutoEvents driver device))
    (counters : Within R (startCounters (σ := σ)))
    (run : Within R (changeController (σ := σ) fun c => { c with running := true })) :
    Within R (start driver) := by
  refine .bind prepare fun outcome => ?_
  cases outcome with
  | error e => exact .pure _
  | ok _ =>
    exact .bind .get fun _ => .bind (.forM sample) fun _ => .bind counters fun _ =>
      .bind run fun _ => .pure _

theorem stop_within (force : Bool)
    (rest : Within R (changeController (σ := σ) fun c => { c with running := false }))
    (stopAll : Within R (stopAllAutoEvents driver))
    (cancelAll : Within R (cancelAllProbes (σ := σ)))
    (drop : Within R (changeController (σ := σ) fun c => { c with countersTimer := none }))
    (retire : ∀ number, Within R (retireTimer (σ := σ) number))
    (shutDown : Within R (changeSite (Site.shutDown driver force))) :
    Within R (stop driver force) := by
  refine .bind rest fun _ => .bind stopAll fun _ => .bind cancelAll fun _ => .bind .get fun s => ?_
  dsimp only
  cases s.controller.countersTimer with
  | none => exact shutDown
  | some number => exact .bind drop fun _ => .bind (retire number) fun _ => shutDown

/-! ## What timers run -/

theorem beginProbe_at {name : String} {s : Service σ} (forget : Within R (forgetProbe name))
    (index : ∀ d, s.device? name = some d →
      Within R (onSite (Site.index driver d.registration))) :
    R s ((beginProbe driver name).after s) := by
  unfold beginProbe
  rw [after_get_bind]
  cases hd : s.device? name with
  | none => exact Within.bind forget (fun _ => .pure _) s
  | some d => exact Within.ite (.bind (index d hd) fun _ => .pure _) (.pure _) s

theorem beginProbe_within (name : String) (forget : Within R (forgetProbe name))
    (index : ∀ r, Within R (onSite (Site.index driver r))) :
    Within R (beginProbe driver name) :=
  fun _ => beginProbe_at forget fun _ _ => index _

/-- A timer fires within whatever its task, and the life of the timer, are within. -/
theorem fireTimer_within {timer : Nat} {s : Service σ}
    (begin : ∀ l, Within R (changeLifecycle timer l))
    (settle : ∀ fired control, Within R (settleTimer timer fired control))
    (runs : ∀ x, s.controller.timers.get? timer = some x → Within R (run driver x.task)) :
    R s ((fireTimer driver timer).after s) := by
  unfold fireTimer
  rw [after_get_bind]
  cases hx : s.controller.timers.get? timer with
  | none => exact Std.Refl.refl s
  | some x =>
    exact Within.ite (.bind (begin _) fun _ => .bind (runs x hx) fun control => settle _ control)
      (.pure _) s

theorem announceCounters_within
    (say : ∀ source metrics, Within R (announce source (.metrics source metrics))) :
    Within R announceCounters :=
  .bind .get fun _ => .bind (say _ _) fun _ => .pure _

end FieldGateway.Service
