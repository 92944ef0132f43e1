import FieldGateway.Driver.Simulated
import FieldGateway.Proofs.Commands.Access
import FieldGateway.Proofs.Service.Ground
import FieldGateway.Proofs.Writing.Refusal
import FieldGateway.Proofs.Writing.Values

/-
  What is read can be written back. A command that may be read and written has the same steps both
  ways (`Listed.steps_eq`). Read, it shows of each value what is not masked out, in the words of the
  mappings. Given these readings to write, it loses nothing on the way: the texts are unmapped and
  decoded, the bits under a mask are merged into what the device still holds, and the driver is
  asked to write exactly the values that it answered the reading with (`write_back`).
-/

namespace FieldGateway

/-- What a command asks the driver: for all its resources, or for a masked one of them. -/
inductive Command.Asks (c : Command) : List Request → Prop
  | all : c.Asks c.requests
  | masked {q : Request} (h : q ∈ c.requests) (mask : q.mask.isSome = true) : c.Asks [q]

/-- A device holds a value for each resource of a command, and goes on holding it in all states of
the driver that asking for the command leads to. -/
structure Driver.Holds {σ : Type} (driver : Driver σ) (d : Device) (c : Command)
    (held : String → Value) (stays : σ → Prop) : Prop where
  reached {x : σ} : stays x → stays (driver.createAddress x d.name d.protocols).2
  asked {x : σ} {a : Address} {requests : List Request} : stays x → c.Asks requests →
    stays (driver.read x d.name a requests).2
  told {x : σ} {a : Address} {requests : List Request} {results : List Result} : stays x →
    c.Asks requests → (driver.read x d.name a requests).1 = .ok results →
      results.map (·.value) = requests.map fun q => held q.resource
  /-- Each masked resource can be read by itself. -/
  answers {x : σ} {a : Address} {q : Request} : stays x → q ∈ c.requests → q.mask.isSome = true →
    ∃ results, (driver.read x d.name a [q]).1 = .ok results

/-- The driver over a table holds what the table says, as long as nothing is to go wrong. -/
theorem Simulation.holds (sim : Simulation) (script : sim.script = {}) (samples : Bool) (d : Device)
    (c : Command) :
    (driver samples).Holds d c (fun resource => (sim.held d.name resource).value) (· = sim) := by
  have read (a : Address) (requests : List Request) :
      ((driver samples).read sim d.name a requests).1 =
        .ok (requests.map fun q => sim.held d.name q.resource) := by
    show outcome (sim.script.reads.find? d.name) (sim.read d.name requests) = _
    rw [Simulation.read, script]
    exact congrArg Except.ok (List.append_nil _)
  constructor
  case reached => exact id
  case asked =>
    intro x a requests stay _
    exact stay
  case told =>
    rintro x a requests results rfl - told
    rw [read] at told
    cases told
    rw [List.map_map]
    rfl
  case answers =>
    rintro x a q rfl - -
    exact ⟨_, read a [q]⟩

/-- What the driver was asked to write. -/
def Effect.written? : Effect → Option (Device × List Request × List Value)
  | .driver (.write d _ requests values _) => some (d, requests, values)
  | _ => none

theorem Effect.written?_of_isWrite {e : Effect} (h : ¬ e.IsWrite) : e.written? = none := by
  unfold written?
  split
  · exact absurd trivial h
  · rfl

namespace Service

open FieldGateway.Action

variable {σ : Type} {driver : Driver σ} {s t u : Service σ} {d : Device} {c : Command}
  {held : String → Value} {stays : σ → Prop}

/-! ## Both directions -/

/-- A command that may be read and written has the same steps in both directions. -/
theorem Listed.steps_eq (listed : Listed s) {name : String} (registered : s.device? name = some d)
    {command : String} {operations : List FieldGateway.Operation}
    (both : d.profile.TwoWay command operations) {w : Command}
    (reads : (commandsOf driver s d).resolve? command .get = some c)
    (writes : (commandsOf driver s d).resolve? command .set = some w) : w.steps = c.steps := by
  have record := onRecord_of_device registered
  obtain ⟨parse, built⟩ := listed.found driver record
  have sound := listed.sound record
  rw [commandsOf, built] at reads writes
  have read := Index.command?_of_resolve? sound (both.offered .get) reads
  have write := Index.command?_of_resolve? sound (both.offered .set) writes
  obtain ⟨steps, found, rfl⟩ := Option.map_eq_some_iff.1 read
  obtain ⟨steps', found', rfl⟩ := Option.map_eq_some_iff.1 write
  exact Option.some.inj (found'.symm.trans found)

/-! ## What is written -/

/-- Between two services the driver was asked to write this, first things first. -/
def Writes (written : List (Device × List Request × List Value)) (s t : Service σ) : Prop :=
  ∃ new, t.site.trace = new ++ s.site.trace ∧ new.reverse.filterMap (·.2.written?) = written

namespace Writes

variable {p : List (Device × List Request × List Value)}

theorem nothing (h : Noting (¬ ·.IsWrite) s t) : Writes [] s t :=
  Records.nothing (h.mono fun _ => Effect.written?_of_isWrite)

theorem before (h : Noting (¬ ·.IsWrite) s t) (h' : Writes p t u) : Writes p s u :=
  Records.trans (nothing h) h'

theorem after (h : Writes p s t) (h' : Noting (¬ ·.IsWrite) t u) : Writes p s u :=
  Records.after h (h'.mono fun _ => Effect.written?_of_isWrite)

theorem noted (h : Writes p s t) : (Tick.noted ⟨s, t⟩).filterMap (·.written?) = p :=
  Tick.filterMap_noted_of_records h

end Writes

/-! ## Merging -/

/-- A masked value, merged with what the device still holds, is the whole of it. -/
theorem mergeMasked_of_held (holds : driver.Holds d c held stays) (stay : stays s.site.driverState)
    {step : Step} (hstep : step ∈ c.steps) {m : Mask} (mask : step.request.mask = some m)
    (whole : (held step.request.resource).type.isInteger = true) (a : Address) :
    let merge := mergeMasked driver d a step.request m (step.masked (held step.request.resource))
    merge.result s = .ok (held step.request.resource) ∧
      merge.after s = (onSite (Site.read driver d a [step.request])).after s := by
  intro merge
  have mem : step.request ∈ c.requests := List.mem_map_of_mem hstep
  have masked : step.request.mask.isSome = true := by rw [mask, Option.isSome_some]
  obtain ⟨results, answered⟩ := holds.answers (a := a) stay mem masked
  have told := holds.told stay (.masked mem masked) answered
  obtain ⟨current, rfl⟩ : ∃ current, results = [current] := by
    rw [← List.length_eq_one_iff, ← List.length_map (·.value), told]
    rfl
  have value : current.value = held step.request.resource := (List.cons.inj told).1
  have answer : (onSite (Site.read driver d a [step.request])).result s = .ok [current] := answered
  unfold merge mergeMasked
  rw [result_bind, after_bind, answer]
  dsimp only
  rw [value, Step.masked_merge mask whole]
  exact ⟨rfl, rfl⟩

/-- Masked values, merged one after the other, are the values that the device holds. -/
theorem merged_of_held (fits : c.Fits d) (holds : driver.Holds d c held stays) (a : Address)
    {steps : List Step} (hsteps : ∀ step ∈ steps, step ∈ c.steps)
    (typed : ∀ step ∈ steps, (held step.request.resource).type = step.request.type)
    (stay : stays s.site.driverState) :
    let merge := merged driver d a
      (steps.map fun step => (step.request, step.masked (held step.request.resource)))
    merge.result s = .ok (steps.map fun step => held step.request.resource) ∧
      Noting (¬ ·.IsWrite) s (merge.after s) := by
  intro merge
  unfold merge
  induction steps generalizing s with
  | nil => exact ⟨rfl, .of_eq rfl⟩
  | cons step steps ih =>
    obtain ⟨hstep, hsteps⟩ := List.forall_mem_cons.1 hsteps
    obtain ⟨type, typed⟩ := List.forall_mem_cons.1 typed
    have others (u : Service σ) (stay : stays u.site.driverState) :
        let next : Action σ (Except CommandError (List Value)) := do
          return (← merged driver d a (steps.map fun step =>
            (step.request, step.masked (held step.request.resource)))).map
              (held step.request.resource :: ·)
        next.result u =
            .ok (held step.request.resource :: steps.map fun step => held step.request.resource) ∧
          Noting (¬ ·.IsWrite) u (next.after u) := by
      obtain ⟨rest, noted⟩ := ih hsteps typed stay
      refine ⟨?_, noted⟩
      rw [result_bind, rest]
      rfl
    rw [List.map_cons, merged]
    cases mask : step.request.mask with
    | none =>
      have all : step.masked (held step.request.resource) = held step.request.resource := by
        rw [Step.masked, mask]
      rw [all]
      exact others s stay
    | some m =>
      have masked : step.request.mask.isSome = true := by rw [mask, Option.isSome_some]
      have whole := fits.whole hstep masked
      rw [← type] at whole
      obtain ⟨first, read⟩ := mergeMasked_of_held holds stay hstep mask whole a
      have asked : Noting (¬ ·.IsWrite) s
          ((onSite (Site.read driver d a [step.request])).after s) := .one rfl id
      obtain ⟨rest, noted⟩ := others ((onSite (Site.read driver d a [step.request])).after s)
        (holds.asked stay (.masked (List.mem_map_of_mem hstep) masked))
      dsimp only
      rw [result_bind, after_bind, first, read]
      exact ⟨rest, asked.trans noted⟩

/-- The driver is asked to write the values that the device holds. -/
theorem write_of_held {w : Command} (same : w.steps = c.steps) (fits : c.Fits d)
    (holds : driver.Holds d c held stays) (stay : stays s.site.driverState) {a : Address}
    (address : (s.site.condition d).address = some a)
    (typed : ∀ step ∈ c.steps, (held step.request.resource).type = step.request.type) :
    let shown := c.steps.map fun step => step.masked (held step.request.resource)
    Writes [(d, w.requests, c.steps.map fun step => held step.request.resource)] s
      ((write driver d w shown).after s) := by
  intro shown
  obtain ⟨found, reached⟩ := address_of_known driver address
  have pairs : w.requests.zip shown =
      c.steps.map fun step => (step.request, step.masked (held step.request.resource)) := by
    rw [Command.requests, same, List.zip_map']
  obtain ⟨values, merged⟩ := merged_of_held fits holds a (fun _ h => h) typed stay
  unfold write
  rw [after_bind, found, reached]
  dsimp only
  rw [after_bind, pairs, values]
  refine .before merged ?_
  dsimp only
  rw [after_bind]
  have asked (requests : List Request) (values : List Value) (u : Service σ) :
      Writes [(d, requests, values)] u
        ((onSite (Site.write driver d a requests values)).after u) := ⟨[_], rfl, rfl⟩
  refine (asked w.requests _ _).after ?_
  cases (onSite (Site.write driver d a w.requests _)).result _ with
  | error e => exact Quiet.unwriting (.bind (driverFailed_quiet d e) fun _ => .pure _) _
  | ok _ =>
    exact Quiet.unwriting
      (.bind (reportSuccess_quiet d) fun _ => .bind (touch_quiet d) fun _ => .pure _) _

/-! ## From the reading to the writing -/

/-- The commands that were made for a device are found from then on. -/
theorem commandsOf_steady (listed : Listed s) {name : String} (registered : s.device? name = some d)
    (steady : Steady d ((onSite (Site.index driver d.registration)).after s) t) :
    commandsOf driver t d = commandsOf driver s d := by
  have made := made?_index driver (listed.placed (onRecord_of_device registered))
  have known : (t.site.indexes.get? d.registration.serial).join = some (commandsOf driver s d) := by
    rw [steady.indexes]
    exact made
  rw [commandsOf, Site.index, known]

/-- Who could ask for a command may ask for another one of its size, while the device is ready. -/
theorem Allowed.again {r q : CommandRequest} (h : Allowed driver s r d c) (listed : Listed s)
    (ready : Ready d ((onSite (Site.index driver d.registration)).after s) t)
    (device : q.device = r.device) {w : Command}
    (resolved : (commandsOf driver s d).resolve? q.command q.method.direction = some w)
    (size : w.size = c.size) : Allowed driver t q d w := by
  have ground := SameGround.index driver d.registration s
  refine ⟨⟨?opened, ?registered, ?resolved⟩, ?unlocked, ready.up, ?fits⟩
  case opened => exact ready.locked.trans (ground.locked.trans h.opened)
  case registered =>
    have registry : t.site.registry = s.site.registry :=
      ready.registry.trans (Site.registry_index driver d.registration s.site)
    rw [device?, registry, device]
    exact h.registered
  case resolved => rw [commandsOf_steady listed h.registered ready.toSteady, resolved]
  case unlocked =>
    rw [Site.isLocked, ready.admin, ground.condition d]
    exact h.unlocked
  case fits =>
    rw [ready.config, size]
    exact h.fits

/-- What a device answers is what it holds, and it may be asked again. -/
theorem readRaw_of_held (known : s.site.Knows d) (holds : driver.Holds d c held stays)
    (stay : stays s.site.driverState) {results : List Result}
    (raw : (readRaw driver d c).result s = .ok results) :
    let t := (readRaw driver d c).after s
    results.map (·.value) = c.steps.map (fun step => held step.request.resource) ∧
      Ready d s t ∧ stays t.site.driverState := by
  intro t
  obtain ⟨ready, a, answered⟩ := readRaw_ok known raw
  have reached : stays (reached driver s d) := by
    rcases reached_cases driver s d with same | made
    · rw [same]
      exact stay
    · rw [made]
      exact holds.reached stay
  have told := holds.told reached .all (congrArg Prod.fst answered)
  rw [Command.requests, List.map_map] at told
  have stay := holds.asked (a := a) reached .all
  rw [answered] at stay
  exact ⟨told, ready, stay⟩

/-- The readings of a device say what it holds, and it may be asked again. -/
theorem readings_of_read (known : s.site.Knows d) (off : s.controller.config.dataTransform = false)
    (holds : driver.Holds d c held stays) (stay : stays s.site.driverState)
    (plain : ∀ step ∈ c.steps, (held step.request.resource).IsPlain) {event : CookedEvent}
    (got : ((read driver d c).result s).map (·.2) = .ok event) :
    let t := (read driver d c).after s
    event.event.readings.map (fun r => (r.resource, r.value)) = c.steps.map (fun step =>
      (step.request.resource, some (step.presented (held step.request.resource)))) ∧
    Ready d s t ∧ stays t.site.driverState := by
  intro t
  unfold t read at *
  rw [result_bind] at got
  rw [after_bind]
  cases raw : (readRaw driver d c).result s with
  | error e =>
    rw [raw] at got
    cases got
  | ok results =>
    rw [raw] at got
    obtain ⟨told, ready, stay⟩ := readRaw_of_held known holds stay raw
    dsimp only at got ⊢
    rw [after_bind, after_pure]
    rw [result_bind, result_pure] at got
    generalize (readRaw driver d c).after s = u at *
    have cooking := SameGround.cook d c results u
    have cooked : u.kitchen.cook d.name c results = .ok event := by
      rw [← got]
      show _ = ((u.kitchen.cook d.name c results).map fun event => (results, event)).map (·.2)
      cases u.kitchen.cook d.name c results <;> rfl
    have kitchen : u.kitchen.dataTransform = false := by
      show u.controller.config.dataTransform = false
      rw [ready.config]
      exact off
    refine ⟨Kitchen.readings_of_cook kitchen plain told cooked,
      ready.still (.of_ground (Still.cook d c results u) cooking) cooking, ?_⟩
    rw [cooking.driver]
    exact stay

/-- What a command read is said in the readings, and the device may be asked again. -/
theorem readings_of_get {device command : String} {query : Query} {params : Params}
    (known : s.site.Knows d) (off : s.controller.config.dataTransform = false)
    (allowed : Allowed driver s ⟨.get, device, command, query, params⟩ d c)
    (readable : c.unreadable? = none) (holds : driver.Holds d c held stays)
    (stay : stays s.site.driverState)
    (plain : ∀ step ∈ c.steps, (held step.request.resource).IsPlain) {event : CookedEvent}
    (got : (runGet driver device command).result s = .ok event) :
    let t := (runGet driver device command).after s
    event.event.readings.map (fun r => (r.resource, r.value)) = c.steps.map (fun step =>
      (step.request.resource, some (step.presented (held step.request.resource)))) ∧
    Ready d ((onSite (Site.index driver d.registration)).after s) t ∧ stays t.site.driverState := by
  intro t
  unfold t
  obtain ⟨result, after⟩ := runGet_of_allowed driver allowed readable
  have looked : (authorize driver device command .get).after s =
      (onSite (Site.index driver d.registration)).after s := allowed.after_authorize
  have ground := SameGround.index driver d.registration s
  rw [looked] at result after
  rw [result] at got
  rw [after]
  refine readings_of_read (s := (onSite (Site.index driver d.registration)).after s) ?_ off holds ?_
    plain got
  · rw [Site.Knows, ground.conditions]
    exact known
  · rw [ground.driver]
    exact stay

/-- Who got an event for a command could read it. -/
theorem allowed_of_got {device command : String} (registered : s.device? device = some d)
    (resolved : (commandsOf driver s d).resolve? command .get = some c) {event : CookedEvent}
    (got : (runGet driver device command).result s = .ok event) (query : Query) (params : Params) :
    Allowed driver s ⟨.get, device, command, query, params⟩ d c ∧ c.unreadable? = none := by
  rcases refusal_or_allowed driver s ⟨.get, device, command, query, params⟩ with
    ⟨e, refusal⟩ | ⟨d', c', allowed, readable⟩
  · have refused := refusal.refused.1
    rw [result_runCommand_get, got] at refused
    cases refused
  · cases registered.symm.trans allowed.registered
    cases resolved.symm.trans allowed.resolved
    exact ⟨allowed, readable rfl⟩

/-- What comes with an answer was read for it, and is published at most. -/
theorem runGet_of_answer {v : Surface} {device command : String} {query : Query} {params : Params}
    {event : CookedEvent}
    (got : ((answer driver v ⟨.get, device, command, query, params⟩).result s).event = some event) :
    let t := (answer driver v ⟨.get, device, command, query, params⟩).after s
    (runGet driver device command).result s = .ok event ∧
      (t = (runGet driver device command).after s ∨
        t = (publish event).after ((runGet driver device command).after s)) := by
  intro t
  unfold t
  rw [answer_eq, result_bind, result_runCommand_get] at got
  rw [answer_eq, after_bind, result_runCommand_get, after_runCommand_get]
  cases read : (runGet driver device command).result s with
  | error e =>
    rw [read] at got
    cases got
  | ok cooked =>
    rw [read] at got
    cases v with
    | named =>
      cases got
      exact ⟨rfl, .inl rfl⟩
    | requested =>
      obtain ⟨pushed, returned⟩ := query
      cases pushed <;> cases returned <;> cases got
      · exact ⟨rfl, .inl rfl⟩
      · exact ⟨rfl, .inr rfl⟩

/-- Publishing on the way leaves the device as it is: what comes with an answer says what the device
holds, and it may be asked again. -/
theorem readings_of_answer {v : Surface} {device command : String} {query : Query}
    {params : Params} (known : s.site.Knows d) (off : s.controller.config.dataTransform = false)
    (registered : s.device? device = some d)
    (resolved : (commandsOf driver s d).resolve? command .get = some c)
    (holds : driver.Holds d c held stays) (stay : stays s.site.driverState)
    (plain : ∀ step ∈ c.steps, (held step.request.resource).IsPlain) {event : CookedEvent}
    (got : ((answer driver v ⟨.get, device, command, query, params⟩).result s).event =
      some event) :
    let t := (answer driver v ⟨.get, device, command, query, params⟩).after s
    Allowed driver s ⟨.get, device, command, query, params⟩ d c ∧
    event.event.readings.map (fun r => (r.resource, r.value)) = c.steps.map (fun step =>
      (step.request.resource, some (step.presented (held step.request.resource)))) ∧
    Ready d ((onSite (Site.index driver d.registration)).after s) t ∧ stays t.site.driverState := by
  intro t
  obtain ⟨got, published⟩ := runGet_of_answer got
  obtain ⟨allowed, readable⟩ := allowed_of_got registered resolved got query params
  obtain ⟨readings, ready, stay⟩ :=
    readings_of_get known off allowed readable holds stay plain got
  refine ⟨allowed, readings, ?_⟩
  rcases published with h | h
  · rw [show t = _ from h]
    exact ⟨ready, stay⟩
  · have ground := SameGround.publish event ((runGet driver device command).after s)
    rw [show t = _ from h, ground.driver]
    exact ⟨ready.still (.publish event _) ground, stay⟩

/-- An allowed command that was given the readings writes what the device holds. -/
theorem put_of_readings {v : Surface} {device command : String} {query : Query} {e : Event}
    {w : Command} (off : s.controller.config.dataTransform = false)
    (allowed : Allowed driver s ⟨.put, device, command, query, e.params⟩ d w)
    (same : w.steps = c.steps) (fits : c.Fits d) (holds : driver.Holds d c held stays)
    (stay : stays s.site.driverState) {a : Address}
    (address : (s.site.condition d).address = some a)
    (writable : ∀ step ∈ c.steps, step.properties.access.writable = true)
    (apart : (c.steps.map (·.request.resource)).Nodup)
    (reversible : ∀ step ∈ c.steps, step.Reversible (held step.request.resource))
    (readings : e.readings.map (fun r => (r.resource, r.value)) = c.steps.map fun step =>
      (step.request.resource, some (step.presented (held step.request.resource)))) :
    Writes [(d, w.requests, c.steps.map fun step => held step.request.resource)] s
      ((answer driver v ⟨.put, device, command, query, e.params⟩).after s) := by
  have values : s.intake.values e.params w.steps =
      .ok (c.steps.map fun step => step.masked (held step.request.resource)) := by
    rw [same]
    exact Intake.values_of_readings off writable apart reversible readings
  have granted : (authorize driver device command .put).result s = .ok (d, w) :=
    allowed.result_authorize
  have looked : (authorize driver device command .put).after s =
      (onSite (Site.index driver d.registration)).after s := allowed.after_authorize
  have ground := SameGround.index driver d.registration s
  have indexed : Noting (¬ ·.IsWrite) s ((onSite (Site.index driver d.registration)).after s) :=
    index_noting driver d.registration (fun _ => id) s
  have written : Writes [(d, w.requests, c.steps.map fun step => held step.request.resource)] s
      ((runPut driver device command e.params).after s) := by
    rcases runPut_authorized driver e.params granted with ⟨_, refused, -⟩ | ⟨_, found, after⟩
    · rw [values] at refused
      cases refused
    · rw [values] at found
      cases found
      rw [after, looked]
      refine .before indexed (write_of_held same fits holds ?_ (a := a) ?_ ?_)
      · rw [ground.driver]
        exact stay
      · rw [ground.condition d]
        exact address
      · exact fun step hstep => (reversible step hstep).typed
  rw [answer_eq, after_bind, after_runCommand_put]
  exact written.after ((reply_quiet v query _).unwriting _)

/-- Whatever happened before: a command that resolves in both directions to the same steps, on
resources that are all different and may be read and written, is read, and what the readings say is
given back to be written. If the steps can tell the values from their readings, and the device goes
on holding them, the driver is asked to write what it was read from, no matter which bits a mask
hid. -/
theorem write_back {s₀ : Service σ} (fresh : Fresh s₀) (ops : List (Operation σ))
    (run : performAll driver s₀ ops = s) (off : s.controller.config.dataTransform = false)
    {device command : String} (registered : s.device? device = some d) {w : Command}
    (reads : (commandsOf driver s d).resolve? command .get = some c)
    (writes : (commandsOf driver s d).resolve? command .set = some w)
    (same : w.steps = c.steps) (apart : (c.steps.map (·.request.resource)).Nodup)
    (both : ∀ step ∈ c.steps, step.properties.access = .readWrite)
    (reversible : ∀ step ∈ c.steps, step.Reversible (held step.request.resource))
    (holds : driver.Holds d c held stays) (stay : stays s.site.driverState)
    {v : Surface} {query : Query} {params : Params} {event : CookedEvent}
    (got : ((answer driver v ⟨.get, device, command, query, params⟩).result s).event = some event)
    (v' : Surface) (query' : Query) :
    let t := (answer driver v ⟨.get, device, command, query, params⟩).after s
    let u := (answer driver v' ⟨.put, device, command, query', event.event.params⟩).after t
    event.event.readings.map (fun r => (r.resource, r.value)) = c.steps.map (fun step =>
      (step.request.resource, some (step.presented (held step.request.resource)))) ∧
    (Tick.noted ⟨t, u⟩).filterMap (·.written?) =
      [(d, w.requests, c.steps.map fun step => held step.request.resource)] := by
  intro t u
  have listed : Listed s := run ▸ performAll_listed driver fresh ops
  have known : s.site.Knows d := by
    rw [← run] at registered ⊢
    exact (performAll_accounted driver fresh ops).known registered
  have plain := fun step hstep => (reversible step hstep).plain
  obtain ⟨allowed, readings, ready, stay⟩ :=
    readings_of_answer known off registered reads holds stay plain got
  obtain ⟨a, address⟩ := ready.known
  have again : Allowed driver t ⟨.put, device, command, query', event.event.params⟩ d w :=
    allowed.again (q := ⟨.put, device, command, query', event.event.params⟩) listed ready rfl writes
      (congrArg List.length same)
  have off : t.controller.config.dataTransform = false := by
    rw [ready.config]
    exact off
  have writable : ∀ step ∈ c.steps, step.properties.access.writable = true := by
    intro step hstep
    rw [both step hstep]
    rfl
  refine ⟨readings, ?_⟩
  exact (put_of_readings off again same (listed.fits registered (List.mem_of_find?_eq_some reads))
    holds stay address writable apart reversible readings).noted

/-- A register of which the low byte may be written, and a mode that has names. -/
theorem write_back_register :
    let driver := Simulation.driver false
    let table := Dict.ofList
      [("level", ⟨.int .int16 0x1234, none, ∅⟩), ("mode", ⟨.string "1", none, ∅⟩)]
    let p : Profile :=
      { name := "pump"
        resources := [
          { name := "level", properties := { type := .scalar (.int .int16), mask := some 0xff } },
          { name := "mode", properties := { type := .scalar .string } }]
        commands := [{ name := "All", operations := [
          { resource := "level" },
          { resource := "mode", mappings := Dict.ofList [("0", "off"), ("1", "on")] }] }] }
    let s := performAll driver (ofConfig { dataTransform := false } 0 {})
      [.addProfile p, .addDevice { name := "p1", profileName := "pump" },
        .change fun _ => { table }]
    ∃ (d : Device) (requests : List Request) (event : CookedEvent),
      ((deviceCommand driver "p1" "All" .get ∅).result s).event = some event ∧
      event.event.readings.map (fun r => (r.resource, r.value)) =
        [("level", some "52"), ("mode", some "on")] ∧
      let t := (deviceCommand driver "p1" "All" .get ∅).after s
      let u := (deviceCommand driver "p1" "All" .put event.event.params).after t
      (Tick.noted ⟨t, u⟩).filterMap (·.written?) =
        [(d, requests, [.int .int16 0x1234, .string "1"])] := by
  intro driver table p s
  let sim : Simulation := { table }
  let held (resource : String) : Value := (sim.held "p1" resource).value
  have fresh : Fresh (ofConfig { dataTransform := false } 0 {} : Service Simulation) :=
    ofConfig_fresh _ _ _
  have off : s.controller.config.dataTransform = false := by decide +kernel
  obtain ⟨event, got⟩ : ∃ event,
      ((deviceCommand driver "p1" "All" .get ∅).result s).event = some event :=
    Option.isSome_iff_exists.1 (by decide +kernel)
  obtain ⟨d, registered, named, ⟨declared, among, all, twoWay⟩, c, reads, w, writes, resources,
      shown, access, reversible⟩ : ∃ d ∈ s.device? "p1", d.name = "p1" ∧
        (∃ declared ∈ d.profile.commands, declared.name = "All" ∧ declared.access = .readWrite) ∧
        ∃ c ∈ (commandsOf driver s d).resolve? "All" .get,
        ∃ w ∈ (commandsOf driver s d).resolve? "All" .set,
          c.steps.map (·.request.resource) = ["level", "mode"] ∧
          c.steps.map (fun step =>
            (step.request.resource, some (step.presented (held step.request.resource)))) =
              [("level", some "52"), ("mode", some "on")] ∧
          (∀ step ∈ c.steps, step.properties.access = .readWrite) ∧
          ∀ step ∈ c.steps, step.Reversible (held step.request.resource) := by
    decide +kernel
  have twoWay : d.profile.TwoWay declared.name declared.operations := .declared among twoWay
  rw [all] at twoWay
  have same : w.steps = c.steps :=
    (performAll_listed driver fresh _).steps_eq registered twoWay reads writes
  have apart : (c.steps.map (·.request.resource)).Nodup := by
    rw [resources]
    decide
  have holds : driver.Holds d c held (· = sim) := by
    have holds := Simulation.holds sim rfl false d c
    rw [named] at holds
    exact holds
  have asked : ((answer driver .named ⟨.get, "p1", "All", {}, ∅⟩).result s).event = some event :=
    got
  obtain ⟨readings, written⟩ := write_back fresh _ rfl off registered reads writes same apart access
    reversible holds rfl asked .named {}
  have whole : c.steps.map (fun step => held step.request.resource) =
      [.int .int16 0x1234, .string "1"] := by
    have all := congrArg (List.map held) resources
    rw [List.map_map] at all
    exact all
  refine ⟨d, w.requests, event, got, readings.trans shown, written.trans ?_⟩
  rw [whole]

end Service

end FieldGateway
