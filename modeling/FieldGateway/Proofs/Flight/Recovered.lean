import FieldGateway.Driver.Simulated
import FieldGateway.Proofs.Flight.Founded
import FieldGateway.Proofs.Flight.Trespass

/-
  What brings a device up again. In every run, with any work in flight, a device that was down is up
  after a move because the driver itself saw it answer, or because it just gave the answer that it
  was asked for, or because a probe ended with an answer that has not one result for each request
  (`unwarranted_iff_miscounts`). Such an answer takes the device down if a command or a sampler
  gets it.
-/

namespace FieldGateway

namespace Service

open FieldGateway.Action

variable {σ : Type} {s t u : Service σ} {d : Device} {name : String} {held : List Device}

/-! ## Recovery -/

/-- The device of a name was down, and it is up, perhaps in another incarnation. -/
def Rises (name : String) (s t : Service σ) : Prop :=
  ∃ d e, s.device? name = some d ∧ s.site.isDown d = true ∧
    t.device? name = some e ∧ t.site.isDown e = false

theorem not_rises_refl : ¬ Rises name s s := by
  rintro ⟨d, e, hd, down, he, up⟩
  obtain rfl := Option.some.inj (hd.symm.trans he)
  rw [down] at up
  cases up

namespace Silent

theorem rises_before (h : Silent s t) : Rises name s u ↔ Rises name t u := by
  simp only [Rises, h.device?, h.isDown]

theorem rises_after (h : Silent t u) : Rises name s u ↔ Rises name s t := by
  simp only [Rises, h.device?, h.isDown]

theorem not_rises (h : Silent s t) : ¬ Rises name s t := by
  rw [h.rises_after]
  exact not_rises_refl

end Silent

/-- A new incarnation is in the state of the one before, if there is one. -/
theorem Installed.not_rises {c : Condition} (i : Installed d c s t) (filed : Filed held s)
    (kept : ∀ old, s.device? d.name = some old → (s.site.condition old).operating = c.operating) :
    ¬ Rises name s t := by
  rintro ⟨old, e, hold, down, he, up⟩
  rw [i.device?] at he
  rw [Site.isDown, i.condition] at up
  split at he
  · rename_i hn
    obtain rfl := Option.some.inj he
    rw [if_pos rfl, ← kept old (hn ▸ hold)] at up
    rw [Site.isDown, up] at down
    cases down
  · obtain rfl := Option.some.inj (hold.symm.trans he)
    have older : old.serial < d.serial := by
      rw [i.serial]
      exact filed.known_of_registered name old hold
    rw [if_neg (Nat.ne_of_lt older)] at up
    rw [Site.isDown, up] at down
    cases down

theorem dropDevice_not_rises (driver : Driver σ) (dropped : String) :
    ¬ Rises name s ((dropDevice driver dropped).after s) := by
  rcases dropDevice_cases driver dropped s with ⟨-, -, ha⟩ | ⟨-, devices, conditions, -, -⟩
  · rw [ha]
    exact not_rises_refl
  · rintro ⟨d, e, hd, down, he, up⟩
    rw [device?, Registry.device?, devices, Dict.find?_erase] at he
    rw [Site.isDown, Site.condition, conditions] at up
    split at he
    · cases he
    · exact not_rises_refl ⟨d, e, hd, down, he, up⟩

/-- Of all reports a success alone brings a device up, the one that it is about. -/
theorem Ends.rises_iff {r : Option Report} (h : Ends d r s t) (filed : Filed held s)
    (inUse : InUse held s d) :
    Rises name s t ↔ r = some .success ∧ s.device? name = some d ∧ s.site.isDown d = true := by
  cases r with
  | none => exact iff_of_false (Silent.not_rises h) nofun
  | some r =>
    obtain ⟨u, reason, before, after⟩ := h
    have known : u.site.Knows d := by
      rw [Site.Knows, before.health.next]
      exact filed.known inUse
    rw [before.rises_before, after.rises_after, ← before.device?, ← before.isDown]
    constructor
    · rintro ⟨e, e', he, down, he', up⟩
      rw [device?_conclude] at he'
      obtain rfl := Option.some.inj (he.symm.trans he')
      rw [Site.isDown, operating_conclude known] at up
      by_cases same : d.serial = e.serial
      · have registered : s.device? e.name = some e :=
          filed.registered ((before.device? name).symm.trans he)
        obtain rfl := filed.same inUse registered same
        refine ⟨?_, he, down⟩
        by_contra failed
        rw [if_pos rfl, turned_of_down (fun success => failed (congrArg some success))] at up
        · cases up
        · exact beq_iff_eq.1 down
      · rw [if_neg same] at up
        rw [Site.isDown, up] at down
        cases down
    · rintro ⟨success, hd, down⟩
      cases success
      refine ⟨d, d, hd, down, (device?_conclude ..).trans hd, ?_⟩
      rw [Site.isDown, operating_conclude known, if_pos rfl]
      rfl

/-- A report leaves the devices where they are. -/
theorem Ends.filed {r : Option Report} (h : Ends d r s t) (filed : Filed held s) :
    Filed held t := by
  cases r with
  | none => exact filed.silent h
  | some r =>
    obtain ⟨u, reason, before, after⟩ := h
    have same := conclude_sameHealth d r reason u
    have next : ((conclude d r reason).after u).site.conditions.next = u.site.conditions.next := by
      rw [same.next]
      exact Numbered.next_modify _ _ _
    exact ((filed.silent before).congr same.devices next).silent after

/-! ## Recovery without an answer -/

/-- The device of a name is up again, and in between it gave no answer that was asked for. -/
def Unwarranted (name : String) (s t : Service σ) : Prop :=
  Rises name s t ∧ ∀ d, s.device? name = some d → ¬ Vindicated d s t

/-- What was said since makes no difference. -/
theorem Unwarranted.before (h : Unwarranted name s u) (silent : Silent t u) :
    Unwarranted name s t := by
  refine ⟨silent.rises_after.1 h.1, fun d hd vindicated => h.2 d hd ?_⟩
  obtain ⟨later, time, answer, older, ht, fulfils⟩ := vindicated
  obtain ⟨new, hu, -⟩ := silent.noting
  exact ⟨new ++ later, time, answer, older, by rw [hu, ht, List.append_assoc], fulfils⟩

theorem Vindicated.onward (h : Vindicated d t u) (silent : Silent s t) : Vindicated d s u := by
  obtain ⟨later, time, answer, older, hu, fulfils⟩ := h
  obtain ⟨new, ht, -⟩ := silent.noting
  exact ⟨later, time, answer, older ++ new, by rw [hu, ht, List.append_assoc], fulfils⟩

variable {driver : Driver σ}

/-- Work that begins in silence and then ends. -/
theorem ended_unwarranted_iff {e : Errand} (filed : Filed held u) (inUse : InUse held u e.device)
    (silent : Silent s u) (unfulfilled : ∀ d, Noting (¬ ·.Fulfils d) s u) :
    Unwarranted name s ((finish driver e).after u) ↔
      s.device? name = some e.device ∧ s.site.isDown e.device = true ∧ e.Miscounts driver u := by
  rw [← silent.device?, ← silent.isDown]
  constructor
  · rintro ⟨rises, unvindicated⟩
    rw [silent.rises_before] at rises
    obtain ⟨r, ends⟩ := finish_ends driver e u
    obtain ⟨rfl, registered, down⟩ := (ends.rises_iff filed inUse).1 rises
    refine ⟨registered, down, ?_⟩
    by_contra counted
    have vindicated := (finish_founded driver counted).vindicated ends
    exact unvindicated _ ((silent.device? name).symm.trans registered) (vindicated.onward silent)
  · rintro ⟨registered, down, miscounts⟩
    obtain ⟨ends, unanswered⟩ := finish_unfulfilled driver miscounts
    refine ⟨silent.rises_before.2 ((ends.rises_iff filed inUse).2 ⟨rfl, registered, down⟩), ?_⟩
    exact fun d _ => not_vindicated ((unfulfilled d).trans (unanswered d))

variable (driver) in
/-- Up to where the driver is asked nothing is answered. -/
theorem begin_unfulfilled (x : Start) (d : Device) :
    Within (Noting (¬ ·.Fulfils d)) (begin driver x) := by
  have index (r : Registration) : Within (Noting (¬ ·.Fulfils d)) (onSite (Site.index driver r)) :=
    index_noting driver r fun _ => id
  have forget (name : String) : Within (Noting (¬ ·.Fulfils d)) (forgetProbe (σ := σ) name) :=
    fun _ => .of_eq rfl
  exact begin_within (authorize_within index) (fun _ _ _ => .of_eq rfl)
    (beginTask_within (fun name => beginProbe_within name (forget name) index) index
      (announceCounters_within fun _ _ _ => .one rfl id))
    (fun timer fired control =>
      settleTimer_within timer fired control (fun _ => .of_eq rfl) fun _ _ => .of_eq rfl) x

theorem atOnce_unwarranted_iff (filed : Filed held s) (x : Start) :
    Unwarranted name s ((atOnce driver x).after s) ↔
      ∃ e, (begin driver x).result s = some e ∧ s.device? name = some e.device ∧
        s.site.isDown e.device = true ∧ e.Miscounts driver ((begin driver x).after s) := by
  have silent := begin_silent driver x s
  rw [atOnce, after_bind]
  cases begun : (begin driver x).result s with
  | none =>
    refine iff_of_false (fun h => silent.not_rises h.1) ?_
    rintro ⟨e, none, -⟩
    cases none
  | some e =>
    obtain ⟨_, hd⟩ := begin_registered driver begun
    have inUse : InUse held ((begin driver x).after s) e.device :=
      .inr ((silent.device? _).trans (filed.registered hd))
    rw [ended_unwarranted_iff (filed.silent silent) inUse silent (begin_unfulfilled driver x · s)]
    simp

/-! ## Operations -/

variable (driver) in
/-- Readings that are pushed may take the device down, and never bring it up. -/
theorem postReadings_ends {device : String} (hd : s.device? device = some d) (source : String)
    (results : List Result) :
    ∃ r, r ≠ some .success ∧ Ends d r s ((postReadings driver device source results).after s) := by
  have silent {u : Service σ} (h : Silent s u) : ∃ r, r ≠ some .success ∧ Ends d r s u :=
    ⟨none, nofun, h⟩
  unfold postReadings
  rw [after_get_bind, hd]
  dsimp only
  rw [after_ite]
  split
  · exact silent (.refl s)
  rw [after_bind]
  have indexed := Calm.silent (Calm.index driver d.registration) s
  cases ((onSite (Site.index driver d.registration)).result s).resolve? source .get with
  | none => exact silent indexed
  | some c =>
    dsimp only
    rw [after_ite]
    split
    · refine silent (indexed.trans (Within.bind (Calm.silent (Calm.cook d c results)) ?_ _))
      intro outcome
      cases outcome with
      | error e => exact .pure _
      | ok event => exact .bind (Calm.silent (Calm.publish event)) fun _ => .pure _
    · exact ⟨some .violation, nofun, .before indexed (.report d .violation _ _)⟩

variable (driver) in
/-- What an operation is to the health of devices. -/
inductive Bearing (s : Service σ) : Operation σ → Service σ → Prop
  | none {op : Operation σ} {t : Service σ} (silent : Silent s t) : Bearing s op t
  /-- A new incarnation is in the state of the one before, if there is one. -/
  | install {op : Operation σ} {d : Device} {c : Condition} {u t : Service σ}
      (installed : Installed d c s u)
      (kept : ∀ old, s.device? d.name = some old →
        (s.site.condition old).operating = c.operating)
      (silent : Silent u t) : Bearing s op t
  | drop {op : Operation σ} {name : String} {u : Service σ} (silent : Silent s u) :
      Bearing s op ((dropDevice driver name).after u)
  /-- The driver itself says so, or what was pushed is no answer. -/
  | report {op : Operation σ} {d : Device} {r : Option Report} {t : Service σ}
      (registered : s.device? d.name = some d) (ends : Ends d r s t)
      (noted : r = some .success → op = .noteSuccess d.name) : Bearing s op t
  | command {op : Operation σ} {x : Start} {t : Service σ} (asked : ∀ timer, x ≠ .fire timer)
      (silent : Silent ((atOnce driver x).after s) t) : Bearing s op t
  | fire {timer : Nat} : Bearing s (.fire timer) ((atOnce driver (.fire timer)).after s)

theorem answer_bearing {op : Operation σ} (w : Surface) (r : CommandRequest) :
    Bearing driver s op ((answer driver w r).after s) := by
  obtain ⟨method, device, command, query, params⟩ := r
  rw [answer_eq, after_bind]
  cases method with
  | get =>
    rw [after_runCommand_get, ← atOnce_get]
    exact .command (x := .get device command) nofun (reply_silent w query _ _)
  | put =>
    rw [after_runCommand_put, ← atOnce_put]
    exact .command (x := .put device command params) nofun (reply_silent w query _ _)

theorem withDevice_bearing (filed : Filed held s) {op : Operation σ} {name : String}
    {step : Device → Action σ Unit} {r : Report} (ends : ∀ d, Ends d (some r) s ((step d).after s))
    (noted : r = .success → op = .noteSuccess name) :
    Bearing driver s op ((withDevice name step).after s) := by
  unfold withDevice
  rw [after_get_bind]
  cases hd : s.device? name with
  | none => exact .none (.refl s)
  | some d =>
    refine .report (filed.registered hd) (ends d) fun success => ?_
    rw [filed.named hd]
    exact noted (Option.some.inj success)

variable (driver) in
theorem perform_bearing (filed : Filed held s) (op : Operation σ) :
    Bearing driver s op (perform driver s op) := by
  have calm {α : Type} {a : Action σ α} (ha : Within Calm a) : Bearing driver s op (a.after s) :=
    .none (ha s).toSilent
  cases op with
  | addProfile p => exact calm (Calm.addProfile p)
  | removeProfile name => exact calm (Calm.removeProfile name)
  | addDevice config =>
    have sampled : Silent ((insertDevice driver config).after s)
        (perform driver s (.addDevice config)) := (Calm.sampleRegistered driver _ _).toSilent
    rcases insertDevice_cases driver config s with ⟨_, _, ha⟩ | ⟨d, _, _, free, i, _⟩
    · rw [ha] at sampled
      exact .none sampled
    · exact .install i (fun old hold => by rw [free] at hold; cases hold) sampled
  | updateDevice config =>
    have sampled := (updateDevice_calm driver config s).toSilent
    rcases replaceDevice_cases driver config s with ⟨_, _, ha⟩ | ⟨d, old, _, _, hold, i, _⟩
    · rw [ha] at sampled
      exact .none sampled
    · exact .install i (fun _ hd => by rw [Option.some.inj (hd.symm.trans hold)]) sampled
  | removeDevice name =>
    exact .drop ((Calm.stopAutoEvents driver name s).toSilent.trans (cancelProbe_silent name _))
  | setAdminState name state => exact calm (Calm.setAdminState name state)
  | setServiceAdminState state => exact calm (Calm.setServiceAdminState state)
  | deviceCommand device command m params =>
    exact answer_bearing .named ⟨m, device, command, {}, params⟩
  | execute r => exact answer_bearing .requested r
  | postReadings device source results =>
    cases hd : s.device? device with
    | none =>
      rw [perform, postReadings, after_get_bind, hd]
      exact .none (.refl s)
    | some d =>
      obtain ⟨r, failed, ends⟩ := postReadings_ends driver hd source results
      exact .report (filed.registered hd) ends fun success => absurd success failed
  | noteSuccess name => exact withDevice_bearing filed (Ends.success · s) fun _ => rfl
  | noteFailure name reason =>
    exact withDevice_bearing filed (Ends.failure · reason s) fun success => by cases success
  | startAutoEvents name => exact calm (Calm.startAutoEvents driver name)
  | stopAutoEvents name => exact calm (Calm.stopAutoEvents driver name)
  | start => exact calm (Calm.start driver)
  | stop force =>
    have stopped := (stopSampling_calm driver s).toSilent.trans (cancelAllProbes_silent _)
    rw [perform, after_stop]
    exact .none (stopped.trans (stopRest_calm driver force _).toSilent)
  | fire timer =>
    rw [perform, ← atOnce_fire]
    exact .fire
  | pass millis timeOfDay => exact .none ⟨{ SameHealth.refl s with }, .of_eq rfl, rfl⟩
  | change f => exact .none ⟨{ SameHealth.refl s with }, .of_eq rfl, rfl⟩

theorem atOnce_filed (filed : Filed held s) (x : Start) :
    Filed held ((atOnce driver x).after s) := by
  have begun := filed.silent (begin_silent driver x s)
  rw [atOnce, after_bind]
  cases (begin driver x).result s with
  | none => exact begun
  | some e =>
    obtain ⟨r, ends⟩ := finish_ends driver e ((begin driver x).after s)
    exact ends.filed begun

theorem perform_filed (filed : Filed held s) (op : Operation σ) :
    Filed held (perform driver s op) := by
  have bearing := perform_bearing driver filed op
  generalize perform driver s op = t at bearing
  cases bearing with
  | none silent => exact filed.silent silent
  | install installed kept silent => exact (filed.installed installed).silent silent
  | @drop op name u silent =>
    have before := filed.silent silent
    rcases dropDevice_cases driver name u with ⟨_, _, ha⟩ | ⟨_, devices, conditions, _⟩
    · rw [ha]
      exact before
    · exact before.erased devices conditions
  | report registered ends noted => exact ends.filed filed
  | command asked silent => exact (atOnce_filed filed _).silent silent
  | fire => exact atOnce_filed filed _

/-- What a command begins is no probe. -/
theorem Errand.not_miscounts {x : Start} {e : Errand} (h : (begin driver x).result s = some e)
    (asked : ∀ timer, x ≠ .fire timer) : ¬ e.Miscounts driver t := by
  cases x with
  | get device command =>
    obtain ⟨d, c, rfl⟩ := begin_get_cases h
    exact id
  | put device command params =>
    rw [begin, result_bind] at h
    split at h
    · cases h
    rw [result_get_bind] at h
    split at h <;> cases h
    exact id
  | fire timer => exact absurd rfl (asked timer)

theorem SameGround.miscounts (h : SameGround s t) (e : Errand) :
    e.Miscounts driver t ↔ e.Miscounts driver s := by
  cases e with
  | get | put | sample => exact Iff.rfl
  | probe timer fired d c =>
    simp only [Errand.Miscounts, (h.asked driver d c.requests).1]

/-- A probe begins only if its device is down. -/
theorem Fires.down {timer : Nat} {e : Errand} (h : Fires driver s timer e)
    (miscounts : e.Miscounts driver t) : s.site.isDown e.device = true := by
  obtain ⟨x, -, -, begins⟩ := h
  generalize x.task = task at begins
  cases begins with
  | probe registered down found => exact down
  | sample => cases miscounts

/-- A device is up again without an answer just if a probe fires that miscounts. -/
theorem perform_unwarranted_iff (filed : Filed held s) {op : Operation σ}
    (h : op ≠ .noteSuccess name) :
    Unwarranted name s (perform driver s op) ↔ ∃ timer e, op = .fire timer ∧
      Fires driver s timer e ∧ s.device? name = some e.device ∧ e.Miscounts driver s := by
  by_cases fires : ∃ timer, op = .fire timer
  · obtain ⟨timer, rfl⟩ := fires
    rw [perform, ← atOnce_fire, atOnce_unwarranted_iff filed]
    constructor
    · rintro ⟨e, begun, registered, -, miscounts⟩
      rw [(begin_fire_ground driver timer s).miscounts] at miscounts
      exact ⟨timer, e, rfl, begin_fire_iff.1 begun, registered, miscounts⟩
    · rintro ⟨_, e, same, fires, registered, miscounts⟩
      cases same
      refine ⟨e, begin_fire_iff.2 fires, registered, fires.down miscounts, ?_⟩
      rwa [(begin_fire_ground driver _ s).miscounts]
  refine iff_of_false (fun unwarranted => ?_) ?_
  swap
  · rintro ⟨timer, _, fired, -⟩
    exact fires ⟨timer, fired⟩
  have bearing := perform_bearing driver filed op
  generalize perform driver s op = t at bearing unwarranted
  cases bearing with
  | none silent => exact silent.not_rises unwarranted.1
  | install installed kept silent =>
    exact installed.not_rises filed kept (silent.rises_after.1 unwarranted.1)
  | drop silent => exact dropDevice_not_rises driver _ (silent.rises_before.1 unwarranted.1)
  | report registered ends noted =>
    obtain ⟨success, same, -⟩ := (ends.rises_iff filed (.inr registered)).1 unwarranted.1
    rw [noted success, filed.named same] at h
    exact h rfl
  | command asked silent =>
    obtain ⟨e, begun, -, -, miscounts⟩ :=
      (atOnce_unwarranted_iff filed _).1 (unwarranted.before silent)
    exact Errand.not_miscounts begun asked miscounts
  | fire => exact fires ⟨_, rfl⟩

end Service

namespace Flight

open Service (Errand Filed Fires Fresh InUse Rises Unwarranted Vindicated)

variable {σ : Type} (driver : Driver σ)

/-! ## Runs -/

theorem move_filed {f : Flight σ} (filed : Filed f.held f.service) (m : Move σ) :
    Filed (f.move driver m).held (f.move driver m).service := by
  cases m with
  | perform op => exact Service.perform_filed filed op
  | begin x =>
    have silent := Service.begin_silent driver x f.service
    unfold move held
    dsimp only
    cases begun : (Service.begin driver x).result f.service with
    | none => simpa [held] using filed.silent silent
    | some e =>
      obtain ⟨name, hd⟩ := Service.begin_registered driver begun
      simpa [held] using
        (filed.silent silent).hold ((silent.device? _).trans (filed.registered hd))
  | finish place =>
    unfold move
    dsimp only
    cases he : f.pending[place]? with
    | none => exact filed
    | some e =>
      obtain ⟨r, ends⟩ := Service.finish_ends driver e f.service
      exact (ends.filed filed).release (List.map_subset _ (List.eraseIdx_subset ..))

theorem run_filed {s : Service σ} (fresh : Fresh s) (moves : List (Move σ)) :
    let f := (⟨s, []⟩ : Flight σ).run driver moves
    Filed f.held f.service :=
  run_keeps (P := fun f => Filed f.held f.service) (fun _ m h => move_filed driver h m) _ moves
    (.of_fresh fresh)

/-- What a device that is up again has to show for it: the driver itself saw it answer, or it just
gave the answer that it was asked for. -/
inductive Warranted (f : Flight σ) : Move σ → String → Prop
  | noted {name : String} : Warranted f (.perform (.noteSuccess name)) name
  | answered {m : Move σ} {name : String} {d : Device}
      (registered : f.service.device? name = some d)
      (vindicated : Vindicated d f.service (f.move driver m).service) : Warranted f m name

/-- A probe fires or ends, on a device that is registered and down, and the driver's answer has not
one result for each request. -/
inductive Miscounts (f : Flight σ) : Move σ → String → Prop
  | fire {timer : Nat} {name : String} {e : Errand} (fires : Fires driver f.service timer e)
      (registered : f.service.device? name = some e.device)
      (miscounts : e.Miscounts driver f.service) : Miscounts f (.perform (.fire timer)) name
  | finish {place : Nat} {name : String} {e : Errand} (pending : f.pending[place]? = some e)
      (registered : f.service.device? name = some e.device)
      (down : f.service.site.isDown e.device = true)
      (miscounts : e.Miscounts driver f.service) : Miscounts f (.finish place) name

theorem rises_unwarranted_iff {f : Flight σ} {m : Move σ} {name : String}
    (h : m ≠ .perform (.noteSuccess name)) :
    Rises name f.service (f.move driver m).service ∧ ¬ f.Warranted driver m name ↔
      Unwarranted name f.service (f.move driver m).service := by
  refine and_congr_right fun _ => ⟨fun unwarranted d registered vindicated => ?_, ?_⟩
  · exact unwarranted (.answered registered vindicated)
  · rintro unvindicated (_ | ⟨registered, vindicated⟩)
    · exact h rfl
    · exact unvindicated _ registered vindicated

theorem move_unwarranted_iff {f : Flight σ} (filed : Filed f.held f.service) {m : Move σ}
    {name : String} (h : m ≠ .perform (.noteSuccess name)) :
    Unwarranted name f.service (f.move driver m).service ↔ f.Miscounts driver m name := by
  cases m with
  | perform op =>
    refine (Service.perform_unwarranted_iff filed fun same => h (by rw [same])).trans ⟨?_, ?_⟩
    · rintro ⟨timer, e, rfl, fires, registered, miscounts⟩
      exact .fire fires registered miscounts
    · rintro ⟨fires, registered, miscounts⟩
      exact ⟨_, _, rfl, fires, registered, miscounts⟩
  | begin x =>
    refine iff_of_false (fun unwarranted => ?_) nofun
    exact (Service.begin_silent driver x f.service).not_rises unwarranted.1
  | finish place =>
    unfold move
    dsimp only
    cases he : f.pending[place]? with
    | none =>
      refine iff_of_false (fun unwarranted => Service.not_rises_refl unwarranted.1) ?_
      rintro (_ | ⟨pending, _⟩)
      rw [he] at pending
      cases pending
    | some e =>
      have inUse : InUse f.held f.service e.device :=
        .inl (List.mem_map_of_mem (List.mem_of_getElem? he))
      have begun : ∀ d, Service.Noting (¬ ·.Fulfils d) f.service f.service := fun _ => .of_eq rfl
      refine (Service.ended_unwarranted_iff filed inUse (.refl _) begun).trans ⟨?_, ?_⟩
      · rintro ⟨registered, down, miscounts⟩
        exact .finish he registered down miscounts
      · rintro (_ | ⟨pending, registered, down, miscounts⟩)
        obtain rfl := Option.some.inj (he.symm.trans pending)
        exact ⟨registered, down, miscounts⟩

/-- Whatever happened before, and whatever work is in flight: a device that was down is up after a
move because the driver itself saw it answer, or because it just gave the answer that it was asked
for, one result for each request of a reading; or else just if a probe of it gets an answer with
another number of results, which a command or a sampler would take for a violation. -/
theorem unwarranted_iff_miscounts {s : Service σ} (fresh : Fresh s) (moves : List (Move σ))
    (m : Move σ) (name : String) :
    let f := (⟨s, []⟩ : Flight σ).run driver moves
    Rises name f.service (f.move driver m).service ∧ ¬ f.Warranted driver m name ↔
      f.Miscounts driver m name := by
  intro f
  have filed : Filed f.held f.service := run_filed driver fresh moves
  by_cases noted : m = .perform (.noteSuccess name)
  · subst noted
    exact iff_of_false (fun h => h.2 .noted) nofun
  · exact (rises_unwarranted_iff driver noted).trans (move_unwarranted_iff driver filed noted)

/-- The driver loses the result of every reading. So the probe of a device that is down gets none at
all for its request, and the device is up. -/
theorem unwarranted_of_lost_result :
    let driver := Simulation.driver false
    let s := Service.ofConfig { allowedFails := 1, downTimeoutSecs := 1 } 0
      { script := { surplus := -1 } }
    let moves : List (Move Simulation) :=
      [.perform (.addProfile { name := "pump", resources :=
         [{ name := "Level", properties := { type := .scalar (.int .int32) } }] }),
       .perform (.addDevice { name := "p1", profileName := "pump" }),
       .perform (.noteFailure "p1" "no answer")]
    let f := (⟨s, []⟩ : Flight Simulation).run driver moves
    let m : Move Simulation := .perform (.fire 0)
    f.Miscounts driver m "p1" ∧ Rises "p1" f.service (f.move driver m).service ∧
      ¬ f.Warranted driver m "p1" := by
  intro driver s moves f m
  have filed : Filed f.held f.service := run_filed driver (Service.ofConfig_fresh _ _ _) moves
  have found : ((Service.begin driver (.fire 0)).result f.service).any (fun e =>
      e.device.name == "p1" && decide (e.Miscounts driver f.service)) = true := by
    decide +kernel
  obtain ⟨e, begun, found⟩ := (Option.any_eq_true ..).1 found
  obtain ⟨named, found⟩ := Bool.and_eq_true_iff.1 found
  have miscounts : e.Miscounts driver f.service := of_decide_eq_true found
  obtain ⟨_, registered⟩ := Service.begin_registered driver begun
  have registered := filed.registered registered
  rw [beq_iff_eq.1 named] at registered
  have lapse : f.Miscounts driver m "p1" :=
    .fire (Service.begin_fire_iff.1 begun) registered miscounts
  have recovered := (unwarranted_iff_miscounts driver (Service.ofConfig_fresh _ _ _) moves m "p1").2
    lapse
  exact ⟨lapse, recovered⟩

end Flight

end FieldGateway
