import FieldGateway.Driver.Simulated
import FieldGateway.Proofs.Caches.Work
import FieldGateway.Proofs.Registry.Atomic

/-
  What the driver makes is made once, in every run: with work in flight, with callers who hold on to
  profiles and ask them for their commands at any time, and with other controllers at the same site
  (`Callers`). Every turn keeps the ledgers of profiles and devices and only adds to them
  (`turn_ledger`), so attributes are parsed once and addresses are made once (`made_once`).
-/

namespace FieldGateway

namespace Service

open FieldGateway.Action

variable {σ : Type} {driver : Driver σ} {ps : List Profile} {ds : List Device} {d : Device}
  {s t : Service σ}

/-! ## Operations -/

theorem Ledger.of_fresh (h : Fresh s) : Ledger driver [] [] s :=
  ⟨.of_fresh h, .of_fresh h⟩

/-- Profiles and devices are taken off record, and nothing is asked. -/
theorem Ledger.fewer (h : Ledger driver ps ds s) (records : ∀ {r}, t.OnRecord r → s.OnRecord r)
    (devices : ∀ {name d}, t.device? name = some d → s.device? name = some d)
    (indexes : t.site.indexes = s.site.indexes)
    (conditions : t.site.conditions = s.site.conditions)
    (noting : Noting (·.isElsewhere = true) s t) : Ledger driver ps ds t where
  profiles := h.profiles.onward (fun hr => h.profiles.onRecord (records hr)) indexes
    (noting.mono fun _ => Effect.parsed?_of_isElsewhere)
  devices := h.devices.onward (fun hd => h.devices.registered (devices hd)) (by rw [conditions])
    (fun d => by rw [Site.condition, conditions]; rfl)
    fun serial => noting.mono fun _ he => Effect.contact?_of_isElsewhere he serial

/-- A new incarnation of a registered profile stands on record. -/
theorem Ledger.installed (h : Ledger driver ps ds s) {c : Condition} (fresh : c.address = none)
    (i : Installed d c s t) (placed : Placed s t) (noting : Noting (·.isElsewhere = true) s t) :
    Ledger driver ps (ds ++ [d]) t where
  profiles := by
    refine h.profiles.onward (fun {r} hr => ?_) placed.indexes
      (noting.mono fun _ => Effect.parsed?_of_isElsewhere)
    rcases hr with ⟨name, hr⟩ | ⟨name, e, he, rfl⟩
    · rw [Registry.profile?, placed.profiles] at hr
      exact h.profiles.onRecord (.inl ⟨name, hr⟩)
    · rcases placed.devices he with he | ⟨p, hp⟩
      · exact h.profiles.onRecord (onRecord_of_device he)
      · exact h.profiles.onRecord (.inl ⟨p, hp⟩)
  devices := h.devices.installed fresh i fun serial =>
    noting.mono fun _ he => Effect.contact?_of_isElsewhere he serial

variable (driver) in
/-- The ledgers go on from these. -/
def Goes (ps : List Profile) (ds : List Device) (t : Service σ) : Prop :=
  ∃ ps' ds', ps <+: ps' ∧ ds <+: ds' ∧ Ledger driver ps' ds' t

theorem Ledger.goes (h : Ledger driver ps ds t) : Goes driver ps ds t :=
  ⟨ps, ds, List.prefix_rfl, List.prefix_rfl, h⟩

theorem addProfile_goes (p : Profile) (hs : Ledger driver ps ds s) :
    Goes driver ps ds ((addProfile p).after s) := by
  unfold addProfile
  rw [after_get_bind]
  dsimp only
  cases added : s.site.registry.addProfile s.site.indexes.next p with
  | error e => exact hs.goes
  | ok registry =>
    refine ⟨ps ++ [p], ds, List.prefix_append _ _, List.prefix_rfl, ?_, ?_⟩
    · refine hs.profiles.added (Registry.addProfile_sound added) (fun {r} hr => ?_) rfl rfl
      rcases hr with ⟨name, hr⟩ | ⟨name, d, hd, rfl⟩
      · change registry.profiles.find? name = some r at hr
        rw [Registry.addProfile_profiles added, Dict.find?_insert] at hr
        split at hr
        · cases hr
          exact .inr rfl
        · exact .inl (.inl ⟨name, hr⟩)
      · change registry.devices.find? name = some d at hd
        rw [Registry.addProfile_devices added] at hd
        exact .inl (onRecord_of_device hd)
    · refine hs.devices.onward (fun {name d} hd => ?_) rfl (fun _ => rfl) fun _ => .of_eq rfl
      change registry.devices.find? name = some d at hd
      rw [Registry.addProfile_devices added] at hd
      exact hs.devices.registered hd

theorem removeProfile_ledger (name : String) :
    Keeps (Ledger driver ps ds) (removeProfile (σ := σ) name) := by
  intro s hs
  unfold removeProfile
  rw [after_get_bind]
  cases removed : s.site.registry.removeProfile name with
  | error e => exact hs
  | ok registry =>
    have devices {n : String} {d : Device} (hd : registry.devices.find? n = some d) :
        s.device? n = some d := by
      rw [Registry.removeProfile_devices removed] at hd
      exact hd
    refine hs.fewer (fun {r} hr => ?_) devices rfl rfl (.of_eq rfl)
    rcases hr with ⟨n, hr⟩ | ⟨n, d, hd, rfl⟩
    · change registry.profiles.find? n = some r at hr
      rw [Registry.removeProfile_profiles removed, Dict.find?_erase] at hr
      split at hr
      · cases hr
      · exact .inl ⟨n, hr⟩
    · exact onRecord_of_device (devices hd)

theorem dropDevice_ledger (name : String) :
    Keeps (Ledger driver ps ds) (dropDevice driver name) := by
  intro s hs
  have placed := dropDevice_placed driver name s
  rcases dropDevice_cases driver name s with ⟨-, -, left⟩ | ⟨-, devices, conditions, -, trace⟩
  · rw [left]
    exact hs
  · have known {n : String} {d : Device}
        (hd : ((dropDevice driver name).after s).device? n = some d) : s.device? n = some d := by
      rw [device?, Registry.device?, devices, Dict.find?_erase] at hd
      split at hd
      · cases hd
      · exact hd
    refine hs.fewer (fun {r} hr => ?_) known placed.indexes conditions (.two trace rfl rfl)
    rcases hr with ⟨n, hr⟩ | ⟨n, d, hd, rfl⟩
    · rw [Registry.profile?, placed.profiles] at hr
      exact .inl ⟨n, hr⟩
    · exact onRecord_of_device (known hd)

theorem insertDevice_goes (config : DeviceConfig) (hs : Ledger driver ps ds s) :
    Goes driver ps ds ((insertDevice driver config).after s) := by
  have placed := insertDevice_placed driver config s
  rcases insertDevice_cases driver config s with ⟨_, _, left⟩ | ⟨d, _, _, _, i, trace⟩
  · rw [left]
    exact hs.goes
  · exact ⟨ps, ds ++ [d], List.prefix_rfl, List.prefix_append _ _,
      hs.installed rfl i placed (.two trace rfl rfl)⟩

theorem replaceDevice_goes (config : DeviceConfig) (hs : Ledger driver ps ds s) :
    Goes driver ps ds ((replaceDevice driver config).after s) := by
  have placed := replaceDevice_placed driver config s
  rcases replaceDevice_cases driver config s with ⟨_, _, left⟩ | ⟨d, _, _, _, _, i, trace⟩
  · rw [left]
    exact hs.goes
  · exact ⟨ps, ds ++ [d], List.prefix_rfl, List.prefix_append _ _,
      hs.installed rfl i placed (.one trace rfl)⟩

theorem startAutoEvents_ledger (device : String) :
    Keeps (Ledger driver ps ds) (startAutoEvents driver device) := fun _ hs =>
  ((Elsewhere.scheduling driver).mono ledger_elsewhere).startAutoEvents_at
    (R := Onward (Ledger driver ps ds)) (fun _ hd => hs.index hd) hs

theorem Goes.sampled {registered : Except DeviceError Device} (h : Goes driver ps ds s) :
    Goes driver ps ds ((sampleRegistered driver registered).after s) := by
  obtain ⟨ps', ds', hps, hds, hs⟩ := h
  exact ⟨ps', ds', hps, hds, sampleRegistered_within (R := Onward (Ledger driver ps' ds'))
    startAutoEvents_ledger registered s hs⟩

theorem start_ledger : Keeps (Ledger driver ps ds) (start driver) :=
  start_within (fun _ hs => hs.elsewhere (.onSite (.one rfl rfl) rfl rfl rfl))
    startAutoEvents_ledger (ledger_elsewhere Elsewhere.startCounters)
    (ledger_elsewhere (Elsewhere.controller _))

theorem answer_ledger (w : Surface) (r : CommandRequest) :
    Keeps (Ledger driver ps ds) (answer driver w r) := by
  intro s hs
  obtain ⟨method, device, command, query, params⟩ := r
  have ran : Ledger driver ps ds
      ((runCommand driver ⟨method, device, command, query, params⟩).after s) := by
    cases method with
    | get =>
      rw [after_runCommand_get, ← atOnce_get]
      exact atOnce_ledger _ s hs
    | put =>
      rw [after_runCommand_put, ← atOnce_put]
      exact atOnce_ledger _ s hs
  rw [answer_eq, after_bind]
  exact reply_within (fun e => ledger_elsewhere (Elsewhere.publish e)) w query _ _ ran

theorem postReadings_ledger (device source : String) (results : List Result) :
    Keeps (Ledger driver ps ds) (postReadings driver device source results) := fun _ hs =>
  postReadings_at (R := Onward (Ledger driver ps ds)) (fun _ hd => hs.index hd)
    (fun d c results => ledger_elsewhere (Elsewhere.cook d c results))
    (fun d reason => ledger_elsewhere (Elsewhere.violated d reason))
    (fun e => ledger_elsewhere (Elsewhere.publish e)) source results hs

/-- Whatever is asked of the service, no profile and no incarnation loses its place. -/
theorem perform_ledger (op : Operation σ) (hs : Ledger driver ps ds s) :
    Goes driver ps ds (perform driver s op) := by
  have other {α : Type} {action : Action σ α} (h : Within Elsewhere action) :
      Goes driver ps ds (action.after s) := (ledger_elsewhere h s hs).goes
  cases op with
  | addProfile p => exact addProfile_goes p hs
  | removeProfile name => exact (removeProfile_ledger name s hs).goes
  | addDevice config => exact (insertDevice_goes config hs).sampled
  | updateDevice config => exact (replaceDevice_goes config hs).sampled
  | removeDevice name =>
    have cleared : Ledger driver ps ds _ := ledger_elsewhere
      (.bind ((Elsewhere.scheduling driver).stopAutoEvents name) fun _ =>
        Elsewhere.cancelProbe name) s hs
    exact (dropDevice_ledger name _ cleared).goes
  | setAdminState name state => exact other (Elsewhere.setAdminState name state)
  | setServiceAdminState state => exact other (Elsewhere.controller _)
  | deviceCommand device command m params =>
    exact (answer_ledger .named ⟨m, device, command, {}, params⟩ s hs).goes
  | execute r => exact (answer_ledger .requested r s hs).goes
  | postReadings device source results =>
    exact (postReadings_ledger device source results s hs).goes
  | noteSuccess name =>
    exact other (withDevice_within (fun d => (Elsewhere.reporting d).success) name)
  | noteFailure name reason =>
    exact other (withDevice_within (fun d => (Elsewhere.reporting d).failure reason) name)
  | startAutoEvents name => exact (startAutoEvents_ledger name s hs).goes
  | stopAutoEvents name => exact other ((Elsewhere.scheduling driver).stopAutoEvents name)
  | start => exact (start_ledger s hs).goes
  | stop force => exact other (Elsewhere.stop driver force)
  | fire timer =>
    have fired := atOnce_ledger (.fire timer) s hs
    rw [atOnce_fire] at fired
    exact fired.goes
  | pass millis timeOfDay =>
    have passed : Elsewhere s (perform driver s (.pass millis timeOfDay)) :=
      .onSite (.of_eq rfl) rfl rfl rfl
    exact (hs.elsewhere passed).goes
  | change f =>
    have changed : Elsewhere s (perform driver s (.change f)) := .onSite (.of_eq rfl) rfl rfl rfl
    exact (hs.elsewhere changed).goes

theorem incarnation_of_replaceDevice {config : DeviceConfig}
    (h : (replaceDevice driver config).result s = .ok d) : incarnation driver s config = .ok d := by
  unfold replaceDevice at h
  rw [result_get_bind] at h
  split at h
  · cases h
  split at h
  · cases h
  rename_i e made
  split at h <;> cases h
  exact made

theorem protocols_of_incarnation {config : DeviceConfig} (h : incarnation driver s config = .ok d) :
    d.protocols = config.protocols := by
  unfold incarnation at h
  split at h
  · cases h
  split at h <;> cases h
  rfl

/-- An update that is accepted puts a new incarnation in place, of which nothing was asked yet. -/
theorem updateDevice_ok {config : DeviceConfig}
    (h : (updateDevice driver config).result s = .ok d) (hs : Ledger driver ps ds s) :
    let t := perform driver s (.updateDevice config)
    Ledger driver ps (ds ++ [d]) t ∧ d.name = config.name ∧ d.protocols = config.protocols ∧
      t.device? config.name = some d ∧ t.contacts d.serial = [] ∧
      (t.site.condition d).address = none := by
  intro t
  have replaced : (replaceDevice driver config).result s = .ok d := by
    rw [updateDevice, result_bind, result_sampleRegistered] at h
    exact h
  let u := (replaceDevice driver config).after s
  have after : t = (sampleRegistered driver (.ok d)).after u := by
    show Action.after (replaceDevice driver config >>= sampleRegistered driver) s = _
    rw [after_bind, replaced]
  have sampled : Uncontacted u t := after ▸ Uncontacted.sampleRegistered driver (.ok d) u
  have placed := replaceDevice_placed driver config s
  rcases replaceDevice_cases driver config s with ⟨_, refused, _⟩ | ⟨e, _, done, name, _, i, trace⟩
  · cases refused.symm.trans replaced
  · cases done.symm.trans replaced
    have ledger := hs.installed rfl i placed (.one trace rfl)
    refine ⟨?_, name, protocols_of_incarnation (incarnation_of_replaceDevice replaced), ?_, ?_, ?_⟩
    · rw [after]
      exact sampleRegistered_within (R := Onward (Ledger driver ps (ds ++ [d])))
        startAutoEvents_ledger _ _ ledger
    · rw [device?, sampled.registry]
      exact (i.device? config.name).trans (if_pos name)
    · have none := hs.devices.beyond (Nat.le_of_eq (hs.devices.length_eq.trans i.serial.symm))
      rw [contacts_noting (sampled.noting _), contacts_noting (.one trace rfl), none]
    · rw [sampled.address, i.condition, if_pos rfl]

end Service

/-! ## Runs -/

open Service (Fresh Ledger Goes ParsedOnce)

/-- A flight, and the profiles that callers hold on to. -/
structure Callers (σ : Type) where
  flight : Flight σ
  held : List Registration := []

namespace Callers

open FieldGateway.Action

variable {σ : Type}

inductive Turn (σ : Type) where
  | move (m : Flight.Move σ)
  /-- A caller takes the profile that is registered under a name, and keeps it. -/
  | hold (name : String)
  /-- A caller asks a profile that it holds for its commands: for all of them, for the one of a name
  in a direction, whether there is one of a name, or for the one to probe with. -/
  | ask (place : Nat)
  /-- Another controller goes on at the same site. -/
  | lend (c : Controller)

variable (driver : Driver σ)

def turn (v : Callers σ) : Turn σ → Callers σ
  | .move m => { v with flight := v.flight.move driver m }
  | .hold name =>
    { v with held := v.held ++ (v.flight.service.site.registry.profile? name).toList }
  | .ask place =>
    match v.held[place]? with
    | none => v
    | some r =>
      let asked := Service.onSite (Site.index driver r)
      { v with flight := { v.flight with service := asked.after v.flight.service } }
  | .lend c => { v with flight := { v.flight with
      service := { v.flight.service with controller := c } } }

def run (v : Callers σ) (turns : List (Turn σ)) : Callers σ := turns.foldl (turn driver) v

/-- The ledgers are kept, and what is in flight or held is listed in them. -/
structure Listed (ps : List Profile) (ds : List Device) (v : Callers σ) : Prop where
  ledger : Ledger driver ps ds v.flight.service
  pending : ∀ e ∈ v.flight.pending, ds[e.device.serial]? = some e.device
  held : ∀ r ∈ v.held, ps[r.serial]? = some r.profile

/-- The ledgers go on from these. -/
def Lists (ps : List Profile) (ds : List Device) (v : Callers σ) : Prop :=
  ∃ ps' ds', ps <+: ps' ∧ ds <+: ds' ∧ Listed driver ps' ds' v

variable {driver} {ps : List Profile} {ds : List Device} {v : Callers σ}

theorem Listed.lists (h : Listed driver ps ds v) : Lists driver ps ds v :=
  ⟨ps, ds, List.prefix_rfl, List.prefix_rfl, h⟩

theorem move_lists (m : Flight.Move σ) (h : Listed driver ps ds v) :
    Lists driver ps ds (v.turn driver (.move m)) := by
  cases m with
  | perform op =>
    obtain ⟨ps', ds', hps, hds, ledger⟩ := Service.perform_ledger op h.ledger
    exact ⟨ps', ds', hps, hds, ledger, fun e he => getElem?_of_isPrefix hds (h.pending e he),
      fun r hr => getElem?_of_isPrefix hps (h.held r hr)⟩
  | begin x =>
    refine Listed.lists ⟨Service.begin_ledger x _ h.ledger, fun e he => ?_, h.held⟩
    rcases List.mem_append.1 he with he | he
    · exact h.pending e he
    · obtain ⟨name, registered⟩ := Service.begin_registered driver (Option.mem_toList.1 he)
      exact h.ledger.devices.registered registered
  | finish place =>
    unfold turn Flight.move
    dsimp only
    cases waits : v.flight.pending[place]? with
    | none => exact h.lists
    | some e =>
      refine Listed.lists ⟨?_, fun e he => h.pending e (List.mem_of_mem_eraseIdx he), h.held⟩
      exact Service.finish_ledger (h.pending e (List.mem_of_getElem? waits)) _ h.ledger

theorem turn_lists (x : Turn σ) (h : Listed driver ps ds v) :
    Lists driver ps ds (v.turn driver x) := by
  cases x with
  | move m => exact move_lists m h
  | hold name =>
    refine Listed.lists ⟨h.ledger, h.pending, fun r hr => ?_⟩
    rcases List.mem_append.1 hr with hr | hr
    · exact h.held r hr
    · exact h.ledger.profiles.onRecord (.inl ⟨name, Option.mem_toList.1 hr⟩)
  | ask place =>
    unfold turn
    dsimp only
    cases holds : v.held[place]? with
    | none => exact h.lists
    | some r =>
      have listed := h.held r (List.mem_of_getElem? holds)
      exact Listed.lists ⟨Service.ledger_index listed _ h.ledger, h.pending, h.held⟩
  | lend c =>
    have other : Service.Elsewhere v.flight.service { v.flight.service with controller := c } :=
      .onSite (.of_eq rfl) rfl rfl rfl
    exact Listed.lists ⟨h.ledger.elsewhere other, h.pending, h.held⟩

theorem run_lists (turns : List (Turn σ)) (h : Listed driver ps ds v) :
    Lists driver ps ds (v.run driver turns) := by
  induction turns generalizing v ps ds with
  | nil => exact h.lists
  | cons x turns ih =>
    obtain ⟨ps', ds', hps, hds, listed⟩ := turn_lists x h
    obtain ⟨ps'', ds'', hps', hds', last⟩ := ih listed
    exact ⟨ps'', ds'', hps.trans hps', hds.trans hds', last⟩

variable (driver) in
theorem listed_of_fresh {s : Service σ} (fresh : Fresh s) (turns : List (Turn σ)) :
    ∃ ps ds, Listed driver ps ds ((⟨⟨s, []⟩, []⟩ : Callers σ).run driver turns) := by
  have start : Listed driver [] [] (⟨⟨s, []⟩, []⟩ : Callers σ) :=
    ⟨.of_fresh fresh, List.forall_mem_nil _, List.forall_mem_nil _⟩
  obtain ⟨ps, ds, -, -, listed⟩ := run_lists turns start
  exact ⟨ps, ds, listed⟩

variable (driver) in
/-- Whatever happens, and whoever asks for the commands of a profile: if attributes of a profile
were parsed, that was at one moment, for commands that are kept since, each resource once at most.
All that an incarnation of a device was asked for went one way: its address was made again as long
as that failed and never after, and by that address it was read and written. An update puts a new
incarnation in place whose address is made from the new protocols, of which nothing was asked before
and which goes the same way from then on. -/
theorem made_once {s : Service σ} (fresh : Fresh s) (turns : List (Turn σ)) :
    let v := (⟨⟨s, []⟩, []⟩ : Callers σ).run driver turns
    let t := v.flight.service
    (∀ time r resource, (time, .driver (.parse r resource)) ∈ t.site.trace →
      ParsedOnce driver t r) ∧
    (∀ time x d, (time, .driver x) ∈ t.site.trace → x.contacted? = some d →
      Reached driver d (t.contacts d.serial) (t.site.condition d).address) ∧
    ∀ config d, (Service.updateDevice driver config).result t = .ok d →
      let u := v.turn driver (.move (.perform (.updateDevice config)))
      d.name = config.name ∧ d.protocols = config.protocols ∧
      u.flight.service.device? config.name = some d ∧ u.flight.service.contacts d.serial = [] ∧
      ∀ later,
        let w := (u.run driver later).flight.service
        Reached driver d (w.contacts d.serial) (w.site.condition d).address := by
  intro v t
  obtain ⟨ps, ds, listed⟩ := listed_of_fresh driver fresh turns
  refine ⟨fun _ _ _ parsed => listed.ledger.profiles.once parsed,
    fun _ _ _ asked contacted => listed.ledger.devices.once asked contacted, ?_⟩
  intro config d done
  obtain ⟨ledger, name, protocols, device, unasked, -⟩ :=
    Service.updateDevice_ok done listed.ledger
  refine ⟨name, protocols, device, unasked, fun later => ?_⟩
  have next : Listed driver ps (ds ++ [d])
      (v.turn driver (.move (.perform (.updateDevice config)))) :=
    ⟨ledger, fun e he => getElem?_of_isPrefix (List.prefix_append _ _) (listed.pending e he),
      listed.held⟩
  obtain ⟨ps', ds', -, hds, last⟩ := run_lists later next
  exact last.ledger.devices.reached
    (getElem?_of_isPrefix hds (ledger.devices.registered device))

/-- Two devices share a profile. The attributes of one of its resources are no good, and the first
device has no address at first; it is updated while it is read. -/
theorem made_once_pumps :
    let driver := Simulation.driver false
    let resource (name : String) (attributes : Json) : Resource :=
      { name, attributes, properties := { type := .scalar (.int .int16), mask := some 15 } }
    let p : Profile :=
      { name := "pump"
        resources := [resource "Level" .null, resource "Broken" (.obj [("reject", .null)])]
        commands := [{ name := "All", operations := [⟨"Broken", none, ∅⟩, ⟨"Level", none, ∅⟩] }] }
    let pump (name host : String) : DeviceConfig :=
      { name, profileName := "pump"
        protocols := Dict.ofList [("virtual", Dict.ofList [("Host", host)])] }
    let level := Dict.ofList [("Level", Param.text "3")]
    let turns : List (Turn Simulation) :=
      [.move (.perform (.addProfile p)), .hold "pump",
        .move (.perform (.addDevice (pump "p1" "a"))),
        .move (.perform (.addDevice (pump "p2" "b"))), .ask 0,
        .move (.perform (.change fun _ =>
          { script := { addresses := Dict.ofList [("p1", .address "no route")] } })),
        .move (.perform (.deviceCommand "p1" "Level" .get ∅)),
        .move (.perform (.change fun _ => {})),
        .move (.perform (.deviceCommand "p1" "Level" .put level)),
        .move (.begin (.get "p1" "Level")), .move (.perform (.deviceCommand "p2" "Level" .get ∅))]
    let update := pump "p1" "c"
    let later : List (Turn Simulation) :=
      [.move (.finish 0), .move (.perform (.deviceCommand "p1" "Level" .get ∅)), .ask 0]
    let v := (⟨⟨Service.ofConfig {} 0 {}, []⟩, []⟩ : Callers Simulation).run driver turns
    let t := v.flight.service
    let w := ((v.turn driver (.move (.perform (.updateDevice update)))).run driver
      later).flight.service
    let parsed := w.site.trace.filterMap fun x => match x.2 with
      | .driver (.parse r resource) => some (r.serial, resource)
      | _ => none
    let asked (serial : Nat) := (w.contacts serial).map fun
      | .address _ (.ok a) => ("made", a)
      | .read _ a .. => ("read", a)
      | .write _ a .. => ("wrote", a)
      | _ => ("failed", "")
    parsed = [(0, "Level"), (0, "Broken")] ∧
      asked 0 = [("read", "a"), ("wrote", "a"), ("read", "a"), ("made", "a"), ("failed", "")] ∧
      asked 1 = [("read", "b"), ("made", "b")] ∧ asked 2 = [("read", "c"), ("made", "c")] ∧
      (∃ r, r.serial = 0 ∧ ParsedOnce driver t r) ∧
      (∃ d, d.serial = 0 ∧ Reached driver d (t.contacts 0) (t.site.condition d).address) ∧
      ∃ d, d.serial = 2 ∧ d.protocols = update.protocols ∧
        Reached driver d (w.contacts 2) (w.site.condition d).address := by
  intro driver resource p pump level turns update later v t w parsed asked
  have isParsed : (t.site.trace.any fun x => match x.2 with
      | .driver (.parse r _) => r.serial == 0
      | _ => false) = true := by decide +kernel
  have isAsked : t.contacts 0 ≠ [] :=
    List.length_pos_iff.1 (show 0 < (t.contacts 0).length by decide +kernel)
  have isUpdated : ((Service.updateDevice driver update).result t).toOption.map (·.serial) =
      some 2 := by decide +kernel
  refine ⟨by decide +kernel, by decide +kernel, by decide +kernel, by decide +kernel, ?_⟩
  have made := made_once driver (Service.ofConfig_fresh {} 0 {}) turns
  -- what was evaluated is known by now: nothing after this may unfold the run again
  have run_eq : (⟨⟨Service.ofConfig {} 0 {}, []⟩, []⟩ : Callers Simulation).run driver turns = v :=
    rfl
  rw [run_eq] at made
  clear_value v
  obtain ⟨once, reached, updated⟩ := made
  refine ⟨?_, ?_, ?_⟩
  · obtain ⟨⟨time, e⟩, he, first⟩ := List.any_eq_true.1 isParsed
    dsimp only at first
    split at first
    · exact ⟨_, beq_iff_eq.1 first, once _ _ _ he⟩
    · cases first
  · obtain ⟨x, hx⟩ := List.exists_mem_of_ne_nil _ isAsked
    obtain ⟨_, d, he, contacted, serial⟩ := Service.of_mem_contacts hx
    exact ⟨d, serial, serial ▸ reached _ _ _ he contacted⟩
  · obtain ⟨d, done, serial⟩ := Option.map_eq_some_iff.1 isUpdated
    cases result : (Service.updateDevice driver update).result t with
    | error e =>
      rw [result] at done
      cases done
    | ok e =>
      rw [result] at done
      cases done
      obtain ⟨-, protocols, -, -, after⟩ := updated update d result
      exact ⟨d, serial, protocols, serial ▸ after later⟩

end Callers

end FieldGateway
