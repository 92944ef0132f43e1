import FieldGateway.Proofs.Commands.Refusal
import FieldGateway.Proofs.Sampling.Ticks
import FieldGateway.Proofs.Service.Idle

/-
  A sampler for which not only changes count does what a request for a pushed reading does. Both
  go from the commands of the device to the answer of the driver, to the event, to the publisher,
  on paths of their own that meet in `readRaw`, `cook` and `publish`. What they leave is the same
  service, whatever fails on the way (`sample_eq_pushed`); an event goes out just when there is one
  to answer the request with.
-/

namespace FieldGateway.Service

open FieldGateway.Action

variable {σ : Type} (driver : Driver σ)

/-- The request for a pushed reading of what a sampler reads. -/
def pushedRead (r : Sampler) (returned : Bool) (params : Params) : CommandRequest :=
  ⟨.get, r.device, r.source, ⟨true, returned⟩, params⟩

/-- What an event that was read leads to. -/
def pushed : Except CommandError CookedEvent → Action σ Unit
  | .ok event => publish event
  | .error _ => return

variable {driver} {s : Service σ} {d : Device} {c : Command}

/-! ## The two paths -/

theorem after_publishResults (results : List Result) (u : Service σ) :
    (publishResults d c results).after u =
      (pushed ((cook d c results).result u)).after ((cook d c results).after u) := by
  unfold publishResults
  rw [after_bind]
  cases (cook d c results).result u <;> rfl

/-- A sampler that publishes every answer reads the command and publishes the event. -/
theorem after_sampleNow {k : Nat} {r : Sampler} (every : r.onChange = false) (u : Service σ) :
    (sampleNow driver k r d c).after u =
      (pushed (((read driver d c).result u).map (·.2))).after ((read driver d c).after u) := by
  unfold sampleNow read
  simp only [after_bind, result_bind]
  cases (readRaw driver d c).result u with
  | error e => rfl
  | ok results =>
    dsimp only
    rw [every, if_neg Bool.false_ne_true, after_publishResults, result_bind, after_bind]
    cases (cook d c results).result _ <;> rfl

/-- A sampler may read this device now. -/
structure Admitted (s : Service σ) (device : String) (d : Device) : Prop where
  opened : s.controller.locked = false
  registered : s.device? device = some d
  unlocked : s.site.isLocked d = false
  up : s.site.isDown d = false

/-- A sampler that may read its command does so, and goes on. -/
theorem after_sample_of_admitted {k : Nat} {r : Sampler}
    (hr : s.controller.samplers.get? k = some r) (admitted : Admitted s r.device d)
    (resolved : (commandsOf driver s d).resolve? r.source .get = some c) :
    (sample driver k).result s = .again ∧
      (sample driver k).after s =
        (sampleNow driver k r d c).after ((onSite (Site.index driver d.registration)).after s) := by
  have found : ((onSite (Site.index driver d.registration)).result s).resolve? r.source .get =
      some c := resolved
  unfold sample
  rw [result_get_bind, after_get_bind, hr]
  dsimp only
  rw [admitted.registered]
  dsimp only
  rw [admitted.opened, admitted.unlocked, admitted.up]
  simp only [Bool.or_self, Bool.false_eq_true, if_false, result_bind, after_bind]
  rw [found]
  exact ⟨rfl, rfl⟩

/-- A sampler whose command passes the checks may read it. -/
theorem after_sample {k : Nat} {r : Sampler} (hr : s.controller.samplers.get? k = some r)
    {returned : Bool} {params : Params}
    (allowed : Allowed driver s (pushedRead r returned params) d c) :
    (sample driver k).result s = .again ∧
      (sample driver k).after s =
        (sampleNow driver k r d c).after ((onSite (Site.index driver d.registration)).after s) :=
  after_sample_of_admitted hr ⟨allowed.opened, allowed.registered, allowed.unlocked, allowed.up⟩
    allowed.resolved

variable (driver) in
theorem execute_pushed (r : Sampler) (returned : Bool) (params : Params) (s : Service σ) :
    let outcome := (runGet driver r.device r.source).result s
    (execute driver (pushedRead r returned params)).after s =
        (pushed outcome).after ((runGet driver r.device r.source).after s) ∧
      (execute driver (pushedRead r returned params)).result s =
        match outcome with
        | .ok event => .ofQuery ⟨true, returned⟩ event
        | .error e => .ofError e := by
  intro outcome
  unfold execute pushedRead
  dsimp only
  rw [result_bind, after_bind]
  show Action.after (match outcome with | .ok event => _ | .error e => _) _ = _ ∧
    Action.result (match outcome with | .ok event => _ | .error e => _) _ = _
  cases outcome <;> exact ⟨rfl, rfl⟩

/-! ## What goes out -/

theorem isEvent_publication (s : Service σ) (e : CookedEvent) :
    (s.publication e).isEvent = true := by
  unfold publication
  split <;> rfl

variable (driver) in
/-- Of reading a command of a device that is up, the event goes out, if there is one. -/
theorem read_pushed (c : Command) (up : s.site.isDown d = false) :
    let outcome := ((read driver d c).result s).map (·.2)
    ∃ told reads, Tells told reads s ((pushed outcome).after ((read driver d c).after s)) ∧
      told.filter (·.isEvent) = outcome.toOption.toList.map s.publication := by
  intro outcome
  have raw := readRaw_cases driver c up
  unfold outcome read
  simp only [result_bind, after_bind]
  generalize (readRaw driver d c).after s = u at raw ⊢
  rcases raw with ⟨a, results, hr, length, told, kitchen⟩ | ⟨e, report, hr, no, told⟩
  · have published := told.trans (kitchen.published d c results)
    have cooked : (cook d c results).result u = s.kitchen.cook d.name c results := by
      rw [← kitchen.kitchen]
      rfl
    rw [after_publishResults, cooked] at published
    rw [hr]
    dsimp only
    rw [after_bind, result_bind, cooked]
    generalize s.kitchen.cook d.name c results = outcome at *
    have events (e) (he : e ∈ outcome.toOption.toList.map s.publication) : e.isEvent = true := by
      obtain ⟨event, -, rfl⟩ := List.mem_map.1 he
      exact isEvent_publication s event
    have same : (Except.map (fun event => (results, event)) outcome).map (·.2) = outcome := by
      cases outcome <;> rfl
    rw [result_pure, after_pure, same]
    refine ⟨_, _, published, ?_⟩
    rw [List.filter_append, List.filter_eq_self.2 events]
    rfl
  · rw [hr]
    exact ⟨_, _, told, rfl⟩

variable (driver) in
/-- What a command that reads leads to when its event is pushed: that event goes out, if there is
one, and no other. -/
theorem published_get (device command : String) (s : Service σ) :
    let outcome := (runGet driver device command).result s
    Tick.published ⟨s, (pushed outcome).after ((runGet driver device command).after s)⟩ =
      outcome.toOption.toList.map s.publication := by
  intro outcome
  unfold outcome
  rcases refusal_or_allowed driver s ⟨.get, device, command, {}, ∅⟩ with
    ⟨e, refusal⟩ | ⟨d, c, allowed, readable⟩
  · obtain ⟨refused, -⟩ := refusal.refused
    rw [result_runCommand_get] at refused
    cases h : (runGet driver device command).result s with
    | error e => exact Tick.published_eq_nil (x := ⟨s, _⟩) (Unpublished.runGet driver device command s)
    | ok event =>
      rw [h] at refused
      cases refused
  · have kitchen := SameKitchen.index driver d.registration s
    obtain ⟨got, left⟩ := runGet_of_allowed driver allowed (readable rfl)
    have looked : (authorize driver device command .get).after s =
        (onSite (Site.index driver d.registration)).after s := allowed.after_authorize
    rw [looked] at got left
    rw [got, left]
    have up := (Calm.index driver d.registration s).toSilent.isDown d
    rw [allowed.up] at up
    obtain ⟨noted, reads, read, events⟩ := read_pushed driver c up
    have whole := (Tells.index driver d.registration s).before read
    rw [Tick.published_eq (x := ⟨s, Action.after _ _⟩) whole, events,
      show Service.publication _ = s.publication from funext kitchen.publication]

/-- For a sampler for which not only changes count, and whose command nobody would be refused: its
time coming and a request for a pushed reading leave the same service, with the same calls of the
driver, the same health, the same counts, and the same event published. That is the event that
answers the request; where reading fails, at the address, at the driver, in a transform, or for the
size of the event, the request is answered with the error and neither publishes anything. -/
theorem sample_eq_pushed {k : Nat} {r : Sampler} (returned : Bool) (params : Params)
    (known : s.controller.samplers.get? k = some r) (every : r.onChange = false)
    (free : ∀ e, ¬ Refusal driver s (pushedRead r returned params) e) :
    let outcome := (runGet driver r.device r.source).result s
    let t := (sample driver k).after s
    (execute driver (pushedRead r returned params)).after s = t ∧
      (sample driver k).result s = .again ∧
      (execute driver (pushedRead r returned params)).result s =
        (match outcome with
        | .ok event => .ofQuery ⟨true, returned⟩ event
        | .error e => .ofError e) ∧
      Tick.published ⟨s, t⟩ = outcome.toOption.toList.map s.publication := by
  intro outcome t
  rcases refusal_or_allowed driver s (pushedRead r returned params) with
    ⟨e, he⟩ | ⟨d, c, allowed, readable⟩
  · exact absurd he (free e)
  have indexed := Calm.index driver d.registration s
  have kitchen := SameKitchen.index driver d.registration s
  obtain ⟨again, sampled⟩ := after_sample known allowed
  obtain ⟨executed, answered⟩ := execute_pushed driver r returned params s
  obtain ⟨got, left⟩ := runGet_of_allowed driver allowed (readable rfl)
  have looked : (authorize driver r.device r.source .get).after s =
      (onSite (Site.index driver d.registration)).after s := allowed.after_authorize
  -- both go on from the service that knows the commands of the device
  rw [looked] at got left
  have up := indexed.toSilent.isDown d
  have told := Tells.index driver d.registration s
  generalize (onSite (Site.index driver d.registration)).after s = u at *
  have same : (execute driver (pushedRead r returned params)).after s = t := by
    rw [executed, left, got, ← after_sampleNow every u]
    exact sampled.symm
  refine ⟨same, again, answered, ?_⟩
  rw [allowed.up] at up
  obtain ⟨noted, reads, read, events⟩ := read_pushed driver c up
  rw [← after_sampleNow (k := k) every u] at read
  have whole : Tells ([] ++ noted) (0 + reads) s t := by
    rw [show t = _ from sampled]
    exact told.trans read
  unfold outcome
  rw [Tick.published_eq (x := ⟨s, t⟩) whole, List.nil_append, events, got,
    show u.publication = s.publication from funext kitchen.publication]

/-- A sampler that reads a pump every ten seconds, and the request that reads it now. -/
theorem sample_eq_pushed_pump :
    let driver := Simulation.driver false
    let s := performAll driver (ofConfig {} 0 {})
      [.addProfile { name := "pump",
                     resources := [{ name := "on", properties := { type := .scalar .bool } }] },
        .addDevice { name := "p1", profileName := "pump",
                     autoEvents := [{ source := "on", interval := "10s" }] },
        .startAutoEvents "p1"]
    ∃ r, s.controller.samplers.get? 0 = some r ∧
      (execute driver (pushedRead r true ∅)).after s = (sample driver 0).after s ∧
      (Tick.published ⟨s, (sample driver 0).after s⟩).length = 1 := by
  intro driver s
  obtain ⟨r, known⟩ :=
    Option.isSome_iff_exists.1 (by decide : (s.controller.samplers.get? 0).isSome = true)
  have fields : (s.controller.samplers.get? 0).all (fun r =>
      r.device == "p1" && r.source == "on" && !r.onChange) = true := by decide
  rw [known, Option.all_some, Bool.and_eq_true, Bool.and_eq_true, Bool.not_eq_true'] at fields
  obtain ⟨⟨device, source⟩, every⟩ := fields
  have request : pushedRead r true ∅ = ⟨.get, "p1", "on", ⟨true, true⟩, ∅⟩ := by
    rw [pushedRead, eq_of_beq device, eq_of_beq source]
  have event : ((runCommand driver ⟨.get, "p1", "on", ⟨true, true⟩, ∅⟩).result s).toOption.isSome =
      true := by decide +kernel
  have free (e) : ¬ Refusal driver s (pushedRead r true ∅) e := by
    intro refusal
    rw [request] at refusal
    rw [refusal.refused.1] at event
    cases event
  obtain ⟨same, -⟩ := sample_eq_pushed true ∅ known every free
  exact ⟨r, known, same, by decide +kernel⟩

end FieldGateway.Service
