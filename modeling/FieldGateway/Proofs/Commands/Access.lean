import FieldGateway.Proofs.Commands.Listed
import FieldGateway.Proofs.Flight.Run
import FieldGateway.Proofs.Sampling.Ticks

/-
  What is read although it must not be. A reading trespasses if it asks for a resource that the
  profile of the device does not let be read. The steps of a command say of each resource what the
  profile says (`Listed.fits`), so the check of a command that reads is enough; but neither a probe
  nor a sampler makes it. What an errand reads trespasses just if the device is reached and its
  command asks for such a resource (`finish_reads`); everything up to that reads nothing
  (`begin_idle`).
-/

namespace FieldGateway

/-- The profile lets the resource of a request be read. -/
def Device.opens (d : Device) (q : Request) : Bool :=
  (d.profile.resource? q.resource).any (·.properties.access.readable)

/-- A reading that asks for a resource that must not be read. -/
def Effect.trespasses : Effect → Bool
  | .driver (.read d _ requests _) => requests.any fun q => !d.opens q
  | _ => false

theorem Effect.trespasses_of_isRead {e : Effect} (h : e.isRead = false) : e.trespasses = false := by
  unfold trespasses
  split
  · cases h
  · rfl

/-- A command is declared to be read that works on a resource that must not be read. -/
def Profile.Overreaches (p : Profile) : Prop :=
  ∃ c ∈ p.commands, c.access.readable = true ∧ ∃ op ∈ c.operations, ∃ r ∈ p.resources,
    r.name = op.resource ∧ r.properties.access.readable = false

/-! ## Commands and their profiles -/

/-- The steps of a command say what the profile of the device says, and masks count on whole
numbers only. -/
structure Command.Fits (c : Command) (d : Device) : Prop where
  opens {step : Step} : step ∈ c.steps → d.opens step.request = step.properties.access.readable
  whole {step : Step} : step ∈ c.steps → step.request.mask.isSome = true →
    step.request.type.isInteger = true
  declared : c.direction = .get → c.unreadable?.isSome → d.profile.Overreaches

theorem Command.isSome_unreadable?_iff {c : Command} :
    c.unreadable?.isSome = true ↔ ∃ step ∈ c.steps, step.properties.access.readable = false := by
  simp [unreadable?, List.find?_isSome]

/-- The check of a command looks for requests that would trespass. -/
theorem Command.Fits.trespasses_iff {c : Command} {d : Device} (h : c.Fits d) :
    (c.requests.any fun q => !d.opens q) = c.unreadable?.isSome := by
  rw [Bool.eq_iff_iff, Command.isSome_unreadable?_iff, List.any_eq_true]
  constructor
  · rintro ⟨q, hq, shut⟩
    obtain ⟨step, hstep, rfl⟩ := List.mem_map.1 hq
    rw [h.opens hstep, Bool.not_eq_true'] at shut
    exact ⟨step, hstep, shut⟩
  · rintro ⟨step, hstep, shut⟩
    refine ⟨step.request, List.mem_map_of_mem hstep, ?_⟩
    rw [h.opens hstep, shut]
    rfl

/-- Each step of a command is about a resource that the profile declares. -/
def Command.Declared (c : Command) (p : Profile) : Prop :=
  ∀ step ∈ c.steps, ∃ r, p.resource? step.request.resource = some r ∧
    step.properties = r.properties ∧ step.request.type = r.properties.type

theorem Index.declared_build {parse : Index.Parse} {p : Profile} (sound : p.flaw? = none)
    {c : Command} (hc : c ∈ (Index.build parse p).commands) : c.Declared p := by
  intro step hstep
  have nodup := (Profile.nodup_of_flaw? sound).1
  rw [Index.commands_build sound] at hc
  obtain ⟨o, -, made⟩ := List.mem_filterMap.1 hc
  have realizes := Index.realizes_of_command? made
  obtain ⟨op, -, r, hr, name, performs⟩ := exists_of_forall₂ realizes.steps hstep
  refine ⟨r, ?_, performs.properties, performs.type⟩
  exact (Profile.resource?_eq_some_iff nodup).2 ⟨hr, by rw [name, performs.resource]⟩

/-- The commands of a profile without flaws say what the profile says. A resource by itself is only
offered in the directions that it allows. -/
theorem Index.fits_build {parse : Index.Parse} {d : Device} (sound : d.profile.flaw? = none)
    {c : Command} (hc : c ∈ (Index.build parse d.profile).commands) : c.Fits d := by
  have nodup := (Profile.nodup_of_flaw? sound).1
  have declared := Index.declared_build sound hc
  rw [Index.commands_build sound] at hc
  obtain ⟨o, ho, made⟩ := List.mem_filterMap.1 hc
  have realizes := Index.realizes_of_command? made
  refine ⟨fun {step} hstep => ?_, fun {step} hstep masked => ?_, fun get shut => ?_⟩
  · obtain ⟨r, found, properties, -⟩ := declared step hstep
    rw [Device.opens, found, Option.any_some, properties]
  · obtain ⟨op, -, r, -, -, performs⟩ := exists_of_forall₂ realizes.steps hstep
    obtain ⟨m, mask⟩ := Option.isSome_iff_exists.1 masked
    rw [performs.type]
    exact ((performs.mask m.bits).1 mask).2
  · obtain ⟨step, hstep, shut⟩ := Command.isSome_unreadable?_iff.1 shut
    obtain ⟨op, hop, r, hr, name, performs⟩ := exists_of_forall₂ realizes.steps hstep
    rw [performs.properties] at shut
    have direction : o.direction = .get := realizes.direction ▸ get
    rcases List.mem_append.1 ho with ho | ho
    · obtain ⟨decl, hdecl, ho⟩ := List.mem_flatMap.1 ho
      obtain ⟨-, operations, allowed⟩ := Offer.mem_each.1 ho
      rw [direction] at allowed
      exact ⟨decl, hdecl, allowed, op, operations ▸ hop, r, hr, name, shut⟩
    · obtain ⟨r', hr', ho⟩ := List.mem_flatMap.1 ho
      obtain ⟨-, operations, allowed⟩ := Offer.mem_each.1 ho
      rw [operations, List.mem_singleton] at hop
      rw [direction, decide_eq_true_eq] at allowed
      have same : r.name = r'.name := by rw [name, hop, Resource.operation]
      have found := (Profile.resource?_eq_some_iff nodup).2 ⟨hr, same⟩
      rw [(Profile.resource?_eq_some_iff nodup).2 ⟨hr', rfl⟩] at found
      cases found
      exact absurd (allowed.1.symm.trans shut) (by decide)

namespace Service

open FieldGateway.Action
open Timer (Control)

variable {σ : Type} {driver : Driver σ} {s t u : Service σ}

theorem Listed.declared (h : Listed s) {name : String} {d : Device}
    (hd : s.device? name = some d) {c : Command} (hc : c ∈ (commandsOf driver s d).commands) :
    c.Declared d.profile := by
  have record := onRecord_of_device hd
  obtain ⟨parse, built⟩ := h.found driver record
  rw [commandsOf, built] at hc
  exact Index.declared_build (h.sound record) hc

theorem Listed.fits (h : Listed s) {name : String} {d : Device} (hd : s.device? name = some d)
    {c : Command} (hc : c ∈ (commandsOf driver s d).commands) : c.Fits d := by
  have record := onRecord_of_device hd
  obtain ⟨parse, built⟩ := h.found driver record
  rw [commandsOf, built] at hc
  exact Index.fits_build (h.sound record) hc

/-! ## What is read -/

/-- The command of an errand. -/
def Errand.command : Errand → Command
  | get _ c | put _ c _ | probe _ _ _ c | sample _ _ _ _ _ c => c

/-- Whether anything that is read between two services trespasses. -/
def Reads (trespass : Prop) (s t : Service σ) : Prop :=
  ∃ new, t.site.trace = new ++ s.site.trace ∧ ((∃ x ∈ new, x.2.trespasses = true) ↔ trespass)

/-- Something that was put on record meanwhile trespasses. -/
def Tick.trespasses (x : Tick σ) : Bool := x.noted.any (·.trespasses)

namespace Reads

variable {p q : Prop}

theorem nothing (h : Noting (·.isRead = false) s t) : Reads False s t := by
  obtain ⟨new, ht, hnew⟩ := h
  refine ⟨new, ht, ?_⟩
  simp only [iff_false, not_exists, not_and, Bool.not_eq_true]
  exact fun x hx => Effect.trespasses_of_isRead (hnew x hx)

theorem trans (h : Reads p s t) (h' : Reads q t u) : Reads (p ∨ q) s u := by
  obtain ⟨new, ht, hp⟩ := h
  obtain ⟨newer, hu, hq⟩ := h'
  refine ⟨newer ++ new, by rw [hu, ht, List.append_assoc], ?_⟩
  rw [← hp, ← hq, or_comm]
  simp only [List.mem_append, or_and_right, exists_or]

theorem before (h : Noting (·.isRead = false) s t) (h' : Reads p t u) : Reads p s u := by
  simpa only [false_or] using (nothing h).trans h'

theorem after (h : Reads p s t) (h' : Noting (·.isRead = false) t u) : Reads p s u := by
  simpa only [or_false] using h.trans (nothing h')

theorem congr (h : Reads p s t) (hpq : p ↔ q) : Reads q s t := by
  obtain ⟨new, ht, hp⟩ := h
  exact ⟨new, ht, hp.trans hpq⟩

theorem tick (h : Reads p s t) : Tick.trespasses ⟨s, t⟩ = true ↔ p := by
  obtain ⟨new, ht, hp⟩ := h
  rw [← hp, Tick.trespasses, Tick.noted_eq (x := ⟨s, t⟩) ht]
  simp [List.any_eq_true]

end Reads

/-- The device has an address, or the driver makes one. -/
def Reaches (driver : Driver σ) (s : Service σ) (d : Device) : Prop :=
  ∃ a, (onSite (Site.address driver d)).result s = .ok a

/-- A reading of this device would trespass. -/
def Intrudes (driver : Driver σ) (s : Service σ) (d : Device) (requests : List Request) : Prop :=
  Reaches driver s d ∧ (requests.any fun q => !d.opens q) = true

variable (driver) in
theorem read_reads (d : Device) (a : Address) (requests : List Request) (s : Service σ) :
    Reads ((requests.any fun q => !d.opens q) = true) s
      ((onSite (Site.read driver d a requests)).after s) := by
  refine ⟨[(s.site.now, .driver (.read d a requests
    ((onSite (Site.read driver d a requests)).result s)))], rfl, ?_⟩
  simp [Effect.trespasses]

theorem ask_reads (d : Device) (requests : List Request) (s : Service σ) :
    Reads (Intrudes driver s d requests) s ((ask driver d requests).after s) := by
  have made := (Still.makeAddress driver d s).unread
  unfold ask Intrudes Reaches
  rw [after_bind]
  cases (onSite (Site.address driver d)).result s with
  | error e => exact (Reads.nothing made).congr (by simp)
  | ok a => exact (Reads.before made (read_reads driver d a requests _)).congr (by simp)

/-- Actions that read nothing. -/
abbrev Unreading {α : Type} (a : Action σ α) : Prop := Within (Noting (·.isRead = false)) a

theorem unreading_of_still {α : Type} {a : Action σ α} (h : Within Still a) : Unreading a :=
  fun s => (h s).unread

theorem unreading_of_idle {α : Type} {a : Action σ α} (h : Within Idle a) : Unreading a :=
  fun s => (h s).unread

theorem publish_unreading (e : CookedEvent) : Unreading (publish (σ := σ) e) :=
  publish_within e (fun _ _ => .one rfl rfl) (fun _ => .of_eq rfl) fun _ => .one rfl rfl

theorem received_unreading (d : Device) (c : Command)
    (answer : Except DriverError (List Result)) : Unreading (received (σ := σ) d c answer) :=
  received_within (unreading_of_still (Still.reportSuccess d)) (fun _ => .of_eq rfl)
    (unreading_of_still (Still.touch d)) (fun e => unreading_of_still (Still.driverFailed d e))
    (fun reason => unreading_of_still (Still.violated d reason)) c answer

theorem publishResults_unreading (d : Device) (c : Command) (results : List Result) :
    Unreading (publishResults (σ := σ) d c results) :=
  publishResults_within (unreading_of_still (Still.cook d c results)) publish_unreading

theorem readRaw_reads (d : Device) (c : Command) (s : Service σ) :
    Reads (Intrudes driver s d c.requests) s ((readRaw driver d c).after s) := by
  have made := (Still.makeAddress driver d s).unread
  unfold readRaw Service.address Intrudes Reaches
  rw [after_bind_assoc, after_bind]
  cases (onSite (Site.address driver d)).result s with
  | error e =>
    have failed := unreading_of_still (Still.reportFailure (σ := σ) d e.message)
    exact (Reads.nothing (made.trans (failed _))).congr (by simp)
  | ok a =>
    have answered := read_reads driver d a c.requests
      ((onSite (Site.address driver d)).after s)
    exact (Reads.before made (answered.after (received_unreading d c _ _))).congr (by simp)

theorem sampleNow_reads (number : Nat) (r : Sampler) (d : Device) (c : Command) (s : Service σ) :
    Reads (Intrudes driver s d c.requests) s ((sampleNow driver number r d c).after s) := by
  unfold sampleNow
  rw [after_bind]
  refine (readRaw_reads d c s).after ?_
  cases (readRaw driver d c).result s with
  | error e => exact .of_eq rfl
  | ok results =>
    have out := publishResults_unreading (σ := σ) d c results
    exact Within.ite (.ite (.bind (unreading_of_still (Still.changeSampler _ _)) fun _ => out)
      (.pure _)) out _

variable (driver) in
/-- What an errand reads for its command trespasses, if the device is reached. -/
theorem finish_reads (e : Errand) (h : ∀ d c values, e ≠ .put d c values) (s : Service σ) :
    Reads (Intrudes driver s e.device e.command.requests) s ((finish driver e).after s) := by
  cases e with
  | get d c =>
    unfold finish Service.read
    rw [after_bind_assoc, after_bind]
    refine (readRaw_reads d c s).after ?_
    cases (readRaw driver d c).result s with
    | error e => exact .of_eq rfl
    | ok results => exact unreading_of_still (Still.cook d c results) _
  | put d c values => exact absurd rfl (h d c values)
  | probe timer fired d c =>
    have ended (answer) := unreading_of_still (Still.endProbe (σ := σ) d answer)
    have settled (control) := unreading_of_still (Still.settleTimer (σ := σ) timer fired control)
    exact ((ask_reads d c.requests s).after (ended _ _)).after (settled _ _)
  | sample timer fired number r d c =>
    have settled := unreading_of_still (Still.settleTimer (σ := σ) timer fired .again)
    exact (sampleNow_reads number r d c s).after (settled _)

/-! ## Up to the reading -/

variable (driver) in
/-- All that is done before the driver is asked reads nothing. -/
theorem begin_idle (x : Start) : Within Idle (begin driver x) :=
  begin_within (Idle.authorize driver) (fun _ _ => Idle.of_still (Still.changeLifecycle _ _))
    (fun timer fired task => beginTask_within (Idle.beginProbe driver) (Idle.index driver)
      (Idle.of_still Still.announceCounters) timer fired task)
    (fun _ _ _ => Idle.of_still (Still.settleTimer _ _ _)) x

end Service

end FieldGateway
