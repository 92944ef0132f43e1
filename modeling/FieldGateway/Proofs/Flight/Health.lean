import FieldGateway.Proofs.Commands.Outcome
import FieldGateway.Proofs.Flight.Run
import FieldGateway.Proofs.Health.Stream

/-
  Health while work is in flight. Work ends with a report on the incarnation that it began with.
  If this one is registered still, the report is like any other. If its device was updated,
  removed or added anew meanwhile, the report tells of an incarnation that is not looked up any
  more, but what follows from it is announced under the name all the same: the end of such work
  may go astray (`Strays`).

  `Swings`: all that work comes to at its end, for whatever incarnation (`finish_swings`).
  `health_in_flight`: as long as nothing goes astray, devices are as they were announced to be and
  nothing is said of others; a move goes astray exactly if it puts an end to this.
-/

namespace FieldGateway.Service

open FieldGateway.Action

variable {σ : Type} {s t u : Service σ} {d : Device} {held : List Device}

/-! ## Incarnations -/

/-- The devices that are registered, and those that work holds on to. -/
def InUse (held : List Device) (s : Service σ) (d : Device) : Prop :=
  d ∈ held ∨ s.device? d.name = some d

/-- Devices are registered under their names, with conditions of their own, which no other
incarnation in use shares. -/
structure Filed (held : List Device) (s : Service σ) : Prop where
  named {name : String} {d : Device} : s.device? name = some d → d.name = name
  known {d : Device} : InUse held s d → s.site.Knows d
  same {d e : Device} : InUse held s d → s.device? e.name = some e → d.serial = e.serial → d = e

namespace Filed

theorem of_fresh (h : Fresh s) : Filed [] s := by
  have none (name : String) : s.device? name = none := by
    rw [device?, Registry.device?, h.registry]
    rfl
  constructor <;> simp [InUse, none]

theorem registered (h : Filed held s) {name : String} (hd : s.device? name = some d) :
    s.device? d.name = some d := by
  rw [h.named hd]
  exact hd

theorem known_of_registered (h : Filed held s) (name : String) (d : Device)
    (hd : s.device? name = some d) : s.site.Knows d :=
  h.known (.inr (h.registered hd))

theorem congr (h : Filed held s)
    (devices : t.site.registry.devices = s.site.registry.devices)
    (next : t.site.conditions.next = s.site.conditions.next) : Filed held t := by
  have same (name : String) : t.device? name = s.device? name := by
    rw [device?, Registry.device?, devices]
    rfl
  refine ⟨fun hd => h.named (same _ ▸ hd), fun hd => ?_, fun {d e} hd he => ?_⟩
  · rw [Site.Knows, next]
    exact h.known (hd.imp_right (same _ ▸ ·))
  · exact h.same (hd.imp_right (same _ ▸ ·)) (same e.name ▸ he)

theorem silent (h : Filed held s) (silent : Silent s t) : Filed held t :=
  h.congr silent.health.devices silent.health.next

/-- A new incarnation has a condition that nothing in use has. -/
theorem installed (h : Filed held s) {c : Condition} (i : Installed d c s t) : Filed held t := by
  have found {name : String} {e : Device} (he : t.device? name = some e) :
      d = e ∧ d.name = name ∨ s.device? name = some e := by
    rw [i.device?] at he
    split at he
    · rename_i hn
      exact .inl ⟨Option.some.inj he, hn⟩
    · exact .inr he
  have old {e : Device} (he : InUse held t e) : d = e ∨ InUse held s e := by
    rcases he with he | he
    · exact .inr (.inl he)
    · exact (found he).imp And.left .inr
  have older {e : Device} (he : InUse held s e) : e.serial < d.serial := i.serial ▸ h.known he
  refine ⟨fun {name e} he => ?_, fun {e} he => ?_, fun {e e'} he he' hs => ?_⟩
  · rcases found he with ⟨rfl, hn⟩ | he
    · exact hn
    · exact h.named he
  · rw [Site.Knows, i.conditions, Numbered.next_add, ← i.serial]
    rcases old he with rfl | he
    · exact Nat.lt_succ_self _
    · exact Nat.lt_succ_of_lt (older he)
  · rcases old he with rfl | he <;> rcases found he' with ⟨rfl, -⟩ | he'
    · rfl
    · exact absurd hs (Nat.ne_of_gt (older (.inr he')))
    · exact absurd hs (Nat.ne_of_lt (older he))
    · exact h.same he he' hs

theorem erased (h : Filed held s) {name : String}
    (devices : t.site.registry.devices = s.site.registry.devices.erase name)
    (conditions : t.site.conditions = s.site.conditions) : Filed held t := by
  have found {n : String} {e : Device} (he : t.device? n = some e) : s.device? n = some e := by
    rw [device?, Registry.device?, devices, Dict.find?_erase] at he
    split at he
    · cases he
    · exact he
  refine ⟨fun hd => h.named (found hd), fun hd => ?_, fun hd he => ?_⟩
  · rw [Site.Knows, conditions]
    exact h.known (hd.imp_right found)
  · exact h.same (hd.imp_right found) (found he)

/-- Work begins on a device that is registered. -/
theorem hold (h : Filed held s) (hd : s.device? d.name = some d) : Filed (held ++ [d]) s := by
  have old {e : Device} (he : InUse (held ++ [d]) s e) : InUse held s e := by
    rcases he with he | he
    · rcases List.mem_append.1 he with he | he
      · exact .inl he
      · exact .inr (List.mem_singleton.1 he ▸ hd)
    · exact .inr he
  exact ⟨h.named, fun he => h.known (old he), fun he => h.same (old he)⟩

theorem release (h : Filed held s) {rest : List Device} (sub : rest ⊆ held) : Filed rest s :=
  ⟨h.named, fun hd => h.known (hd.imp_left (sub ·)), fun hd => h.same (hd.imp_left (sub ·))⟩

end Filed

/-! ## The end of work -/

/-- Of the health of devices nothing changes but the condition of one. If its operating state
does, that is announced under its name. -/
structure Swings (d : Device) (s t : Service σ) : Prop where
  devices : t.site.registry.devices = s.site.registry.devices
  next : t.site.conditions.next = s.site.conditions.next
  others {e : Device} : d.serial ≠ e.serial →
    (t.site.condition e).operating = (s.site.condition e).operating
  stream (name : String) : healthSince name t.site.trace =
    if d.name = name ∧ (s.site.condition d).operating ≠ (t.site.condition d).operating
    then (t.site.condition d).operating :: healthSince name s.site.trace
    else healthSince name s.site.trace
  events : ∃ time, t.healthEvents =
    (if (s.site.condition d).operating = (t.site.condition d).operating then []
      else [(time, d.name, (t.site.condition d).operating)]) ++ s.healthEvents

namespace Swings

theorem device? (h : Swings d s t) (name : String) : t.device? name = s.device? name := by
  rw [Service.device?, Registry.device?, h.devices]
  rfl

theorem before (silent : Silent s t) (h : Swings d t u) : Swings d s u := by
  obtain ⟨devices, next, others, stream, events⟩ := h
  simp only [silent.health.operating, silent.noting.healthSince, silent.noting.healthEvents]
    at others stream events
  exact ⟨devices.trans silent.health.devices, next.trans silent.health.next, others, stream, events⟩

theorem after (h : Swings d s t) (silent : Silent t u) : Swings d s u where
  devices := silent.health.devices.trans h.devices
  next := silent.health.next.trans h.next
  others he := (silent.health.operating _).trans (h.others he)
  stream name := by
    rw [silent.noting.healthSince, silent.health.operating]
    exact h.stream name
  events := by
    rw [silent.noting.healthEvents, silent.health.operating]
    exact h.events

theorem of_silent (d : Device) (silent : Silent s t) : Swings d s t where
  devices := silent.health.devices
  next := silent.health.next
  others _ := silent.health.operating _
  stream name := by
    rw [silent.noting.healthSince, if_neg fun h => h.2 (silent.health.operating d).symm]
  events := ⟨0, by rw [silent.noting.healthEvents, if_pos (silent.health.operating d).symm]; rfl⟩

end Swings

theorem conclude_swings (known : s.site.Knows d) (r : Report) (reason : String) :
    Swings d s ((conclude d r reason).after s) := by
  have same := conclude_sameHealth d r reason s
  have now : (((conclude d r reason).after s).site.condition d).operating = (turned d r s).2 := by
    rw [operating_conclude known, if_pos rfl]
  refine ⟨same.devices, ?_, fun he => ?_, fun name => ?_, s.site.now, ?_⟩
  · rw [same.next]
    exact Numbered.next_modify _ _ _
  · rw [operating_conclude known, if_neg he]
  · rw [now]
    exact healthSince_conclude name d r reason s
  · rw [now]
    exact healthEvents_conclude d r reason s

theorem Ends.swings {r : Option Report} (h : Ends d r s t) (known : s.site.Knows d) :
    Swings d s t := by
  cases r with
  | none => exact .of_silent d h
  | some r =>
    obtain ⟨u, reason, before, after⟩ := h
    have knows : u.site.Knows d := by
      rw [Site.Knows, before.health.next]
      exact known
    exact .before before (.after (conclude_swings knows r reason) after)

/-! ## What is said of devices -/

/-- All that was announced of health in between is about devices that were registered. -/
def OfRegistered (s t : Service σ) : Prop :=
  ∃ new, t.healthEvents = new ++ s.healthEvents ∧ ∀ x ∈ new, (s.device? x.2.1).isSome

/-- Devices are in good order, as they were announced to be, and nothing was said of others in
between. -/
structure Faithful (held : List Device) (s t : Service σ) : Prop where
  filed : Filed held t
  told : AsTold t
  said : OfRegistered s t

namespace Faithful

theorem refl (filed : Filed held s) (told : AsTold s) : Faithful held s s :=
  ⟨filed, told, [], rfl, nofun⟩

/-- Nothing more was said. -/
theorem quiet (h : Faithful held s t) (filed : Filed held u) (told : AsTold u)
    (events : u.healthEvents = t.healthEvents) : Faithful held s u :=
  ⟨filed, told, by rw [OfRegistered, events]; exact h.said⟩

theorem silent (h : Faithful held s t) (silent : Silent t u) : Faithful held s u :=
  h.quiet (h.filed.silent silent) (h.told.silent silent) silent.noting.healthEvents

variable {driver : Driver σ}

theorem insertDevice (h : Faithful held s t) (config : DeviceConfig) :
    Faithful held s ((insertDevice driver config).after t) := by
  rcases insertDevice_stream driver config t with ha | ⟨d, c, i, _, _, events, _⟩
  · rw [ha]
    exact h
  · exact h.quiet (h.filed.installed i)
      (h.told.insertDevice h.filed.known_of_registered config) events

theorem replaceDevice (h : Faithful held s t) (config : DeviceConfig) :
    Faithful held s ((replaceDevice driver config).after t) := by
  have told : AsTold ((Service.replaceDevice driver config).after t) :=
    h.told.replaceDevice h.filed.known_of_registered config
  have events := (replaceDevice_noting driver config t).healthEvents
  rcases replaceDevice_cases driver config t with ⟨_, _, ha⟩ | ⟨d, old, _, _, _, i, _⟩
  · rw [ha]
    exact h
  · exact h.quiet (h.filed.installed i) told events

theorem dropDevice (h : Faithful held s t) (name : String) :
    Faithful held s ((dropDevice driver name).after t) := by
  have told : AsTold ((Service.dropDevice driver name).after t) := h.told.dropDevice name
  have events := (dropDevice_noting driver name t).healthEvents
  rcases dropDevice_cases driver name t with ⟨_, _, ha⟩ | ⟨_, devices, conditions, _⟩
  · rw [ha]
    exact h
  · exact h.quiet (h.filed.erased devices conditions) told events

end Faithful

/-- The end of work on a device that is registered. -/
theorem Swings.told (h : Swings d s t) (filed : Filed held s) (hd : s.device? d.name = some d)
    (told : AsTold s) : AsTold t := fun name e he => by
  rw [h.device?] at he
  rw [h.stream]
  by_cases hs : d.serial = e.serial
  · obtain rfl := filed.same (.inr hd) (filed.registered he) hs
    have hn : d.name = name := filed.named he
    by_cases same : (s.site.condition d).operating = (t.site.condition d).operating
    · rw [if_neg fun hc => hc.2 same, ← same]
      exact told name d he
    · rw [if_pos ⟨hn, same⟩]
      rfl
  · rw [h.others hs, if_neg]
    · exact told name e he
    · rintro ⟨rfl, -⟩
      exact hs (by rw [Option.some.inj (hd.symm.trans he)])

theorem Swings.ofRegistered (h : Swings d s t) (hd : (s.device? d.name).isSome) :
    OfRegistered s t := by
  obtain ⟨time, events⟩ := h.events
  refine ⟨_, events, fun x hx => ?_⟩
  split at hx
  · cases hx
  · rw [List.mem_singleton.1 hx]
    exact hd

theorem OfRegistered.trans (h : OfRegistered s t) (h' : OfRegistered t u)
    (same : ∀ name, t.device? name = s.device? name) : OfRegistered s u := by
  obtain ⟨new, ht, hnew⟩ := h
  obtain ⟨newer, hu, hnewer⟩ := h'
  refine ⟨newer ++ new, by rw [hu, ht, List.append_assoc], fun x hx => ?_⟩
  rcases List.mem_append.1 hx with hx | hx
  · rw [← same]
    exact hnewer x hx
  · exact hnew x hx

/-- The registry is the same yet, and work on a device in it ends. -/
theorem Faithful.swung (h : Faithful held s t) (same : ∀ name, t.device? name = s.device? name)
    (swings : Swings d t u) (hd : t.device? d.name = some d) : Faithful held s u where
  filed := h.filed.congr swings.devices swings.next
  told := swings.told h.filed hd h.told
  said := h.said.trans (swings.ofRegistered (Option.isSome_of_eq_some hd)) same

/-- The end of work on an incarnation that is not registered any more: what it says is true, and
of a device that is registered, or it says nothing. -/
theorem Swings.faithful_iff (h : Swings d s t) (filed : Filed held s) (hd : InUse held s d)
    (overtaken : s.device? d.name ≠ some d) (told : AsTold s) :
    AsTold t ∧ OfRegistered s t ↔
      ((s.site.condition d).operating ≠ (t.site.condition d).operating →
        ∃ e, s.device? d.name = some e ∧
          (s.site.condition e).operating = (t.site.condition d).operating) := by
  -- the incarnation in the registry has a condition of its own, which stays
  have others {name : String} {e : Device} (he : s.device? name = some e) :
      (t.site.condition e).operating = (s.site.condition e).operating := by
    refine h.others fun hs => ?_
    obtain rfl := filed.same hd (filed.registered he) hs
    exact overtaken (filed.registered he)
  constructor
  · rintro ⟨asTold, new, hnew, registered⟩ turned
    obtain ⟨time, events⟩ := h.events
    rw [if_neg turned] at events
    obtain rfl := List.append_cancel_right (hnew.symm.trans events)
    obtain ⟨e, he⟩ := Option.isSome_iff_exists.1 (registered _ (List.mem_singleton_self _))
    refine ⟨e, he, ?_⟩
    have now := asTold d.name e ((h.device? _).trans he)
    rw [others he, h.stream, if_pos ⟨rfl, turned⟩] at now
    exact now
  · intro agrees
    refine ⟨fun name e he => ?_, ?_⟩
    · rw [h.device?] at he
      rw [others he, h.stream]
      split
      · rename_i hn
        obtain ⟨e', he', now⟩ := agrees hn.2
        obtain rfl := Option.some.inj (he'.symm.trans (hn.1 ▸ he))
        exact now
      · exact told name e he
    · obtain ⟨time, events⟩ := h.events
      refine ⟨_, events, fun x hx => ?_⟩
      split at hx
      · cases hx
      · rename_i turned
        obtain ⟨e, he, -⟩ := agrees turned
        rw [List.mem_singleton.1 hx]
        exact Option.isSome_of_eq_some he

/-! ## Work in flight -/

variable (driver : Driver σ)

theorem begin_silent (x : Start) : Within Silent (begin driver x) := by
  have index (r : Registration) : Within Silent (onSite (Site.index driver r)) :=
    Calm.silent (Calm.index driver r)
  have probe (name : String) : Within Silent (beginProbe driver name) :=
    beginProbe_within name (fun s => ⟨SameHealth.forgetProbe name s, .of_eq rfl, rfl⟩) index
  exact begin_within (authorize_silent driver)
    (fun timer l s => (changeLifecycle_modified timer l s).silent)
    (beginTask_within probe index (Calm.silent Calm.announceCounters)) settleTimer_silent x

/-- A probe begins on a device that is registered. -/
theorem beginProbe_registered {name : String} {p : Device × Command}
    (h : (beginProbe driver name).result s = some p) : s.device? name = some p.1 := by
  unfold beginProbe at h
  rw [result_get_bind] at h
  split at h
  · cases h
  · rename_i d hd
    rw [result_ite] at h
    split at h
    · rw [result_bind, result_pure] at h
      obtain ⟨_, _, rfl⟩ := Option.map_eq_some_iff.1 h
      exact hd
    · cases h

theorem beginTask_registered {timer fired : Nat} {task : Task} {e : Errand}
    (h : (beginTask driver timer fired task).result s = .ok e) :
    ∃ name, s.device? name = some e.device := by
  cases task with
  | probe name =>
    rw [beginTask, result_bind] at h
    split at h
    · cases h
    · rename_i found
      cases h
      exact ⟨name, beginProbe_registered driver found⟩
  | sample number =>
    rw [beginTask, result_get_bind] at h
    split at h
    · cases h
    split at h
    · cases h
    rename_i r _ _ d hd
    rw [result_ite] at h
    split at h
    · cases h
    rw [result_bind] at h
    split at h
    · cases h
    · cases h
      exact ⟨r.device, hd⟩
  | counters => cases h

theorem authorize_registered {device command : String} {m : Method} {p : Device × Command}
    (h : (authorize driver device command m).result s = .ok p) : s.device? device = some p.1 := by
  rcases authorize_cases driver device command m s with ⟨_, hr, _⟩ | ⟨d, hd, _, hr⟩
  · cases hr.symm.trans h
  · exact hr p h ▸ hd

/-- Whatever begins, begins on a device that is registered. -/
theorem begin_registered {x : Start} {e : Errand} (h : (begin driver x).result s = some e) :
    ∃ name, s.device? name = some e.device := by
  cases x with
  | get device command =>
    rw [begin, result_bind] at h
    split at h
    · cases h
    rename_i granted
    split at h
    · cases h
    · cases h
      exact ⟨device, authorize_registered driver granted⟩
  | put device command params =>
    rw [begin, result_bind] at h
    split at h
    · cases h
    rename_i granted
    rw [result_get_bind] at h
    split at h
    · cases h
    · cases h
      exact ⟨device, authorize_registered driver granted⟩
  | fire timer =>
    rw [begin, result_get_bind] at h
    split at h
    · cases h
    rename_i x _
    rw [result_ite] at h
    split at h
    · let u := (changeLifecycle timer x.lifecycle.beginFire.2).after s
      let begun := beginTask driver timer (s.site.now * Timer.nanosPerMilli) x.task
      change (settleBegun timer _ (begun.result u)).result (begun.after u) = some e at h
      cases found : begun.result u with
      | error control =>
        rw [found] at h
        cases h
      | ok e' =>
        rw [found] at h
        cases h
        exact beginTask_registered driver (s := u) found
    · cases h

theorem ask_silent (d : Device) (requests : List Request) :
    Within Silent (ask driver d requests) :=
  Calm.silent (ask_calm driver d requests)

theorem endProbe_ends (d : Device) (answer : Except DriverError (List Result)) (s : Service σ) :
    ∃ r, Ends d r s ((endProbe d answer).after s) := by
  cases answer with
  | ok results =>
    unfold endProbe
    rw [after_bind, after_pure]
    exact ⟨_, .success d s⟩
  | error e => exact ⟨none, Silent.refl s⟩

theorem publishResults_silent (d : Device) (c : Command) (results : List Result) :
    Within Silent (publishResults (σ := σ) d c results) :=
  publishResults_within (Calm.silent (Calm.cook d c results)) fun e => Calm.silent (Calm.publish e)

theorem sampleNow_ends (number : Nat) (r : Sampler) (d : Device) (c : Command) (s : Service σ) :
    Ends d (reportOf ((readRaw driver d c).result s)) s
      ((sampleNow driver number r d c).after s) := by
  have raw := readRaw_ends driver d c s
  unfold sampleNow
  rw [after_bind]
  refine raw.after ?_
  cases (readRaw driver d c).result s with
  | error e => exact .refl _
  | ok results =>
    have published := publishResults_silent (σ := σ) d c results
    have remembered := Calm.silent (Calm.remember (σ := σ) number results)
    exact Within.ite (.ite (.bind remembered fun _ => published) (.pure _)) published _

/-- Work ends with one report at most, on the incarnation that it began with. -/
theorem finish_ends (e : Errand) (s : Service σ) :
    ∃ r, Ends e.device r s ((finish driver e).after s) := by
  cases e with
  | get d c => exact ⟨_, read_ends driver d c s⟩
  | put d c values => exact ⟨_, write_ends driver d c values s⟩
  | probe timer fired d c =>
    let u := (ask driver d c.requests).after s
    let answer := (ask driver d c.requests).result s
    obtain ⟨r, ended⟩ := endProbe_ends d answer u
    have settled := settleTimer_silent timer fired ((endProbe d answer).result u)
      ((endProbe d answer).after u)
    unfold finish
    rw [after_bind, after_bind]
    exact ⟨r, .before (ask_silent driver d c.requests s) (ended.after settled)⟩
  | sample timer fired number r d c =>
    have settled := settleTimer_silent timer fired .again ((sampleNow driver number r d c).after s)
    unfold finish
    rw [after_bind]
    exact ⟨_, (sampleNow_ends driver number r d c s).after settled⟩

theorem finish_swings (e : Errand) (known : s.site.Knows e.device) :
    Swings e.device s ((finish driver e).after s) := by
  obtain ⟨r, ends⟩ := finish_ends driver e s
  exact ends.swings known

/-! ## Operations -/

theorem work_faithful (filed : Filed held s) (told : AsTold s) (h : Work driver d s t)
    (hd : s.device? d.name = some d) : Faithful held s t := by
  refine (h.keeps (P := fun u => Faithful held s u ∧ ∀ name, u.device? name = s.device? name)
    (fun {u v} step ⟨faithful, same⟩ => ?_) ⟨.refl filed told, fun _ => rfl⟩).1
  have hu : u.device? d.name = some d := (same d.name).trans hd
  rcases workStep_cases driver step with calm | ⟨r, reason, rfl⟩
  · exact ⟨faithful.silent calm.toSilent, fun name => (calm.device? name).trans (same name)⟩
  · have swings := conclude_swings (faithful.filed.known (.inr hu)) r reason
    exact ⟨faithful.swung same swings hu, fun name => (swings.device? name).trans (same name)⟩

theorem workOn_faithful (filed : Filed held s) (told : AsTold s) {name : String}
    (h : WorkOn driver name s t) : Faithful held s t := by
  rcases h with rfl | ⟨d, hd, work⟩
  · exact .refl filed told
  · exact work_faithful driver filed told work (filed.registered hd)

theorem fireTimer_faithful (filed : Filed held s) (told : AsTold s) (timer : Nat) :
    Faithful held s ((fireTimer driver timer).after s) := by
  have silent := begin_silent driver (.fire timer) s
  have begun : Faithful held s ((begin driver (.fire timer)).after s) :=
    (Faithful.refl filed told).silent silent
  rw [← atOnce_fire]
  unfold atOnce
  rw [after_bind]
  cases started : (begin driver (.fire timer)).result s with
  | none => exact begun
  | some e =>
    obtain ⟨name, hd⟩ := begin_registered driver started
    have registered : ((begin driver (.fire timer)).after s).device? e.device.name =
        some e.device := (silent.device? _).trans (filed.registered hd)
    exact begun.swung silent.device? (finish_swings driver e (begun.filed.known (.inr registered)))
      registered

theorem perform_faithful (filed : Filed held s) (told : AsTold s) (op : Operation σ) :
    Faithful held s (perform driver s op) := by
  have start : Faithful held s s := .refl filed told
  have calm {α : Type} {a : Action σ α} (ha : Within Calm a) : Faithful held s (a.after s) :=
    start.silent (ha s).toSilent
  have work {name : String} {t : Service σ} (ht : WorkOn driver name s t) : Faithful held s t :=
    workOn_faithful driver filed told ht
  cases op with
  | addProfile p => exact calm (Calm.addProfile p)
  | removeProfile name => exact calm (Calm.removeProfile name)
  | addDevice config =>
    exact (start.insertDevice config).silent (Calm.sampleRegistered driver _ _).toSilent
  | updateDevice config =>
    exact (start.replaceDevice config).silent (updateDevice_calm driver config s).toSilent
  | removeDevice name =>
    have stopped := start.silent (Calm.stopAutoEvents driver name s).toSilent
    exact (stopped.silent (cancelProbe_silent name _)).dropDevice name
  | setAdminState name state => exact calm (Calm.setAdminState name state)
  | setServiceAdminState state => exact calm (Calm.setServiceAdminState state)
  | deviceCommand | execute | postReadings | noteSuccess | noteFailure =>
    exact work (perform_chores driver rfl s).workOn
  | startAutoEvents name => exact calm (Calm.startAutoEvents driver name)
  | stopAutoEvents name => exact calm (Calm.stopAutoEvents driver name)
  | start => exact calm (Calm.start driver)
  | stop force =>
    have stopped := start.silent (stopSampling_calm driver s).toSilent
    rw [perform, after_stop]
    exact (stopped.silent (cancelAllProbes_silent _)).silent (stopRest_calm driver force _).toSilent
  | fire timer => exact fireTimer_faithful driver filed told timer
  | pass millis timeOfDay =>
    exact start.silent ⟨{ SameHealth.refl s with }, .of_eq rfl, rfl⟩
  | change f => exact start.silent ⟨{ SameHealth.refl s with }, .of_eq rfl, rfl⟩

end FieldGateway.Service

namespace FieldGateway.Flight

open Service (AsTold Errand Filed Fresh OfRegistered Faithful)

variable {σ : Type} (driver : Driver σ)

/-! ## Runs -/

/-- Work ends with an incarnation that is not registered any more. This one goes down or comes up
by that, but no device that is registered under its name is in that state. -/
def Strays (f : Flight σ) : Move σ → Prop
  | .finish place => ∃ e, f.pending[place]? = some e ∧
      let s := f.service
      let t := (Service.finish driver e).after s
      let now := (t.site.condition e.device).operating
      s.device? e.device.name ≠ some e.device ∧ (s.site.condition e.device).operating ≠ now ∧
        ∀ d, s.device? e.device.name = some d → (s.site.condition d).operating ≠ now
  | _ => False

/-- No move of a run goes astray. -/
def Straight (f : Flight σ) : List (Move σ) → Prop
  | [] => True
  | m :: moves => ¬ f.Strays driver m ∧ Straight (f.move driver m) moves

/-- The devices that work in flight holds on to. -/
def held (f : Flight σ) : List Device := f.pending.map Errand.device

/-- The end of work keeps devices as told, and tells of no others, unless it goes astray. -/
theorem finish_told {f : Flight σ} (filed : Filed f.held f.service) (told : AsTold f.service)
    {place : Nat} {e : Errand} (he : f.pending[place]? = some e) :
    let t := (Service.finish driver e).after f.service
    Filed f.held t ∧
      (AsTold t ∧ OfRegistered f.service t ↔ ¬ f.Strays driver (.finish place)) := by
  intro t
  have inUse : Service.InUse f.held f.service e.device :=
    .inl (List.mem_map_of_mem (List.mem_of_getElem? he))
  have swings := Service.finish_swings driver e (filed.known inUse)
  refine ⟨filed.congr swings.devices swings.next, ?_⟩
  by_cases registered : f.service.device? e.device.name = some e.device
  · have faithful := (Faithful.refl filed told).swung (fun _ => rfl) swings registered
    refine iff_of_true ⟨faithful.told, faithful.said⟩ ?_
    rintro ⟨e', he', overtaken, -⟩
    obtain rfl := Option.some.inj (he.symm.trans he')
    exact overtaken registered
  · rw [swings.faithful_iff filed inUse registered told]
    constructor
    · rintro agrees ⟨e', he', -, turned, others⟩
      obtain rfl := Option.some.inj (he.symm.trans he')
      obtain ⟨d, hd, now⟩ := agrees turned
      exact others d hd now
    · intro straight turned
      by_contra none
      exact straight ⟨e, he, registered, turned, fun d hd now => none ⟨d, hd, now⟩⟩

theorem move_told {f : Flight σ} (filed : Filed f.held f.service) (told : AsTold f.service)
    (m : Move σ) :
    let g := f.move driver m
    Filed g.held g.service ∧
      (AsTold g.service ∧ OfRegistered f.service g.service ↔ ¬ f.Strays driver m) := by
  intro g
  cases m with
  | perform op =>
    have faithful := Service.perform_faithful driver filed told op
    exact ⟨faithful.filed, iff_of_true ⟨faithful.told, faithful.said⟩ id⟩
  | begin x =>
    have silent := Service.begin_silent driver x f.service
    have faithful := (Faithful.refl filed told).silent silent
    refine ⟨?_, iff_of_true ⟨faithful.told, faithful.said⟩ id⟩
    unfold g move held
    dsimp only
    cases begun : (Service.begin driver x).result f.service with
    | none => simpa [held] using faithful.filed
    | some e =>
      obtain ⟨name, hd⟩ := Service.begin_registered driver begun
      simpa [held] using faithful.filed.hold ((silent.device? _).trans (filed.registered hd))
  | finish place =>
    unfold g move
    dsimp only
    cases he : f.pending[place]? with
    | none =>
      refine ⟨filed, iff_of_true ⟨told, (Faithful.refl filed told).said⟩ ?_⟩
      rintro ⟨e, he', -⟩
      cases he.symm.trans he'
    | some e =>
      obtain ⟨ended, h⟩ := finish_told driver filed told he
      refine ⟨ended.release ?_, h⟩
      exact List.map_subset _ (List.eraseIdx_subset ..)

theorem run_told {f : Flight σ} (filed : Filed f.held f.service) (told : AsTold f.service)
    {moves : List (Move σ)} (straight : f.Straight driver moves) :
    Filed (f.run driver moves).held (f.run driver moves).service ∧
      AsTold (f.run driver moves).service := by
  induction moves generalizing f with
  | nil => exact ⟨filed, told⟩
  | cons m moves ih =>
    obtain ⟨moved, h⟩ := move_told driver filed told m
    exact ih moved (h.2 straight.1).1 straight.2

/-- Whatever happens to devices while work is in flight, and in whichever order: as long as
nothing goes astray, every device is as was announced last since it was added. A further move
leaves it so, and announces the health of registered devices only, exactly if it does not go
astray. -/
theorem health_in_flight {s : Service σ} (fresh : Fresh s) {moves : List (Move σ)}
    (straight : Straight driver ⟨s, []⟩ moves) (m : Move σ) :
    let f := (⟨s, []⟩ : Flight σ).run driver moves
    let g := f.move driver m
    AsTold f.service ∧
      (AsTold g.service ∧ OfRegistered f.service g.service ↔ ¬ f.Strays driver m) := by
  intro f g
  obtain ⟨filed, told⟩ := run_told driver (f := ⟨s, []⟩) (Filed.of_fresh fresh)
    (Service.asTold_of_fresh fresh) straight
  exact ⟨told, (move_told driver filed told m).2⟩

/-- A device is updated while it is read, and answers then: the incarnation that it was read
through is up as before. -/
theorem told_of_late_answer :
    let driver := Simulation.driver false
    let s := Service.ofConfig { allowedFails := 1 } 0 ({} : Simulation)
    let moves : List (Move Simulation) :=
      [.perform (.addProfile { name := "pump", resources :=
         [{ name := "level", properties := { type := .scalar (.int .int32) } }] }),
       .perform (.addDevice { name := "p1", profileName := "pump" }),
       .begin (.get "p1" "level"),
       .perform (.updateDevice { name := "p1", profileName := "pump" })]
    let f := (⟨s, []⟩ : Flight Simulation).run driver moves
    let g := f.move driver (.finish 0)
    f.pending.length = 1 ∧ g.pending.length = 0 ∧ AsTold g.service ∧
      OfRegistered f.service g.service := by
  intro driver s moves f g
  have straight : Straight driver ⟨s, []⟩ moves := ⟨id, id, id, id, trivial⟩
  obtain ⟨-, told⟩ :=
    health_in_flight driver (Service.ofConfig_fresh _ _ _) straight (.finish 0)
  have same : ∀ e ∈ f.pending[0]?, (f.service.site.condition e.device).operating =
      (((Service.finish driver e).after f.service).site.condition e.device).operating := by decide
  obtain ⟨asTold, said⟩ := told.2 fun ⟨e, he, _, turned, _⟩ => turned (same e he)
  exact ⟨by decide, by decide, asTold, said⟩

-- Without an answer that incarnation goes down: the device is announced to be down, and is up.
example :
    let s := Service.ofConfig { allowedFails := 1 } 0
      { script := { reads := Dict.ofList [("p1", .communication "no answer")] } }
    let moves : List (Move Simulation) :=
      [.perform (.addProfile { name := "pump", resources :=
         [{ name := "level", properties := { type := .scalar (.int .int32) } }] }),
       .perform (.addDevice { name := "p1", profileName := "pump" }),
       .begin (.get "p1" "level"),
       .perform (.updateDevice { name := "p1", profileName := "pump" }), .finish 0]
    let f := (⟨s, []⟩ : Flight Simulation).run (Simulation.driver false) moves
    f.pending.length = 0 ∧ healthSince "p1" f.service.site.trace = [.down] ∧
      (f.service.device? "p1").map (fun d => (f.service.site.condition d).operating) =
        some .up := by
  decide

end FieldGateway.Flight
