import FieldGateway.Proofs.Health.Reports
import FieldGateway.Proofs.Sampling.Schedules

/-
  What a service does between reports. The timers of a service are `Assigned` if samplers, the
  counters and probes each hold timers of their own, and its profiles are `Catalogued` if their
  commands have a place where they are kept. What keeps both, and every probe, and the commands
  that were made, and is silent on health, is `Calm`: one lemma for each action that is.
-/

namespace FieldGateway.Service

open FieldGateway.Action

variable {σ : Type} {s t u : Service σ}

/-! ## Timers and commands -/

/-- A timer runs what it is held for. -/
structure Assigned (s : Service σ) : Prop where
  samplers {k i : Nat} : s.scheduleOf k = some (.timer i) → s.taskOf i = some (.sample k)
  counters {i : Nat} : s.controller.countersTimer = some i → s.taskOf i = some .counters
  probes {name : String} {i : Nat} : s.controller.probes.find? name = some i →
    s.taskOf i = some (.probe name)

/-- It is only this that counts. -/
theorem Assigned.congr (h : Assigned s) (task : ∀ i, t.taskOf i = s.taskOf i)
    (schedule : ∀ k, t.scheduleOf k = s.scheduleOf k)
    (counters : t.controller.countersTimer = s.controller.countersTimer)
    (probes : t.controller.probes = s.controller.probes) : Assigned t where
  samplers hk := by
    rw [task]
    exact h.samplers (schedule _ ▸ hk)
  counters hi := by
    rw [task]
    exact h.counters (counters ▸ hi)
  probes hi := by
    rw [task]
    exact h.probes (probes ▸ hi)

theorem taskOf_congr (timers : t.controller.timers = s.controller.timers) (i : Nat) :
    t.taskOf i = s.taskOf i := by
  rw [taskOf, timers]
  rfl

theorem scheduleOf_congr (samplers : t.controller.samplers = s.controller.samplers) (k : Nat) :
    t.scheduleOf k = s.scheduleOf k := by
  rw [scheduleOf, sampler?, samplers]
  rfl

theorem Assigned.of_controller (h : Assigned s) (controller : t.controller = s.controller) :
    Assigned t :=
  h.congr (taskOf_congr (by rw [controller])) (scheduleOf_congr (by rw [controller]))
    (by rw [controller]) (by rw [controller])

/-- There is a place for the commands of every profile that is followed or may be. -/
structure Catalogued (s : Service σ) : Prop where
  profiles {name : String} {r : Registration} : s.site.registry.profile? name = some r →
    r.serial < s.site.indexes.next
  devices {name : String} {d : Device} : s.device? name = some d →
    d.registration.serial < s.site.indexes.next

/-- The commands of a profile, if they were made. -/
def made? (s : Service σ) (r : Registration) : Option Index := (s.site.indexes.get? r.serial).join

theorem hasProbe_congr {name : String} (probes : t.controller.probes.find? name =
      s.controller.probes.find? name)
    (live : ∀ i, s.controller.probes.find? name = some i → t.isLive i = s.isLive i) :
    t.hasProbe name = s.hasProbe name := by
  rw [hasProbe, probes, hasProbe]
  cases h : s.controller.probes.find? name with
  | none => rfl
  | some i => exact live i h

/-- A new timer takes nothing from those that were set before. -/
theorem setTimer_old (rhythm : Timer.Rhythm) (task : Task) (s : Service σ) {i : Nat} {x : Task}
    (hx : s.taskOf i = some x) :
    let t := (setTimer rhythm task).after s
    t.taskOf i = some x ∧ t.isLive i = s.isLive i := by
  have hi : i ≠ s.controller.timers.next := by
    rintro rfl
    rw [taskOf, (Site.get?_eq_none_iff _ _).2 (Nat.le_refl _)] at hx
    cases hx
  refine ⟨?_, ?_⟩
  · show ((s.controller.timers.add _).get? i).map _ = _
    rw [Numbered.get?_add, if_neg hi]
    exact hx
  · show ((s.controller.timers.add _).get? i).any _ = _
    rw [Numbered.get?_add, if_neg hi]
    rfl

theorem made?_index (driver : Driver σ) {r : Registration} (hr : r.serial < s.site.indexes.next) :
    ((onSite (Site.index driver r)).after s).made? r =
      some ((onSite (Site.index driver r)).result s) := by
  rcases Site.index_learns driver r s.site with ⟨known, h⟩ | ⟨-, h⟩
  · show ((Site.index driver r s.site).2.indexes.get? r.serial).join = _
    rw [h]
    exact known
  · show ((Site.index driver r s.site).2.indexes.get? r.serial).join = _
    rw [h, Numbered.get?_modify, if_pos rfl]
    cases hg : s.site.indexes.get? r.serial with
    | none => rw [Site.get?_eq_none_iff] at hg; omega
    | some x => rfl

theorem made?_index_old (driver : Driver σ) (r : Registration) {r' : Registration} {i : Index}
    (h : s.made? r' = some i) : ((onSite (Site.index driver r)).after s).made? r' = some i := by
  rcases Site.index_learns driver r s.site with ⟨-, hs⟩ | ⟨unknown, hs⟩
  · show ((Site.index driver r s.site).2.indexes.get? r'.serial).join = _
    rw [hs]
    exact h
  · show ((Site.index driver r s.site).2.indexes.get? r'.serial).join = _
    rw [hs, Numbered.get?_modify, if_neg]
    · exact h
    · intro same
      rw [made?, ← same, unknown] at h
      cases h

/-! ## Calm -/

/-- Nothing is said of health, no probe is armed or forgotten, no profile changes. -/
structure Plain (s t : Service σ) : Prop where
  noting : Noting (·.tellsOfHealth = false) s t
  metadata : t.controller.reportsMetadata = s.controller.reportsMetadata
  probes : t.controller.probes = s.controller.probes
  profiles : t.site.registry.profiles = s.site.registry.profiles
  indexes : t.site.indexes = s.site.indexes

namespace Plain

theorem refl (s : Service σ) : Plain s s := ⟨.of_eq rfl, rfl, rfl, rfl, rfl⟩

theorem trans (h : Plain s t) (h' : Plain t u) : Plain s u where
  noting := h.noting.trans h'.noting
  metadata := h'.metadata.trans h.metadata
  probes := h'.probes.trans h.probes
  profiles := h'.profiles.trans h.profiles
  indexes := h'.indexes.trans h.indexes

instance : Std.Refl (Plain (σ := σ)) := ⟨refl⟩

instance : IsTrans (Service σ) Plain := ⟨fun _ _ _ => trans⟩

theorem learning (h : Plain s t) (health : SameHealth s t) (hs : Catalogued s) :
    Catalogued t ∧ ∀ r i, s.made? r = some i → t.made? r = some i := by
  refine ⟨⟨fun {name r} hr => ?_, fun {name d} hd => ?_⟩, fun r i hi => ?_⟩
  · rw [h.indexes]
    rw [Registry.profile?, h.profiles] at hr
    exact hs.profiles hr
  · rw [h.indexes]
    rw [device?, Registry.device?, health.devices] at hd
    exact hs.devices hd
  · rw [made?, h.indexes]
    exact hi

end Plain

/-- Silent on health, with every probe and all commands that were made kept. -/
structure Calm (s t : Service σ) : Prop extends Silent s t where
  probing : Assigned s → Assigned t ∧ ∀ name, t.hasProbe name = s.hasProbe name
  learning : Catalogued s → Catalogued t ∧ ∀ r i, s.made? r = some i → t.made? r = some i

namespace Calm

theorem refl (s : Service σ) : Calm s s :=
  ⟨.refl s, fun h => ⟨h, fun _ => rfl⟩, fun h => ⟨h, fun _ _ => id⟩⟩

theorem trans (h : Calm s t) (h' : Calm t u) : Calm s u where
  toSilent := h.toSilent.trans h'.toSilent
  probing hs := by
    obtain ⟨ht, live⟩ := h.probing hs
    obtain ⟨hu, live'⟩ := h'.probing ht
    exact ⟨hu, fun name => (live' name).trans (live name)⟩
  learning hs := by
    obtain ⟨ht, known⟩ := h.learning hs
    obtain ⟨hu, known'⟩ := h'.learning ht
    exact ⟨hu, fun r i hi => known' r i (known r i hi)⟩

instance : Std.Refl (Calm (σ := σ)) := ⟨refl⟩

instance : IsTrans (Service σ) Calm := ⟨fun _ _ _ => trans⟩

/-! ## Building blocks -/

theorem of_plain (health : SameHealth s t) (plain : Plain s t)
    (assigned : Assigned s → Assigned t ∧ ∀ name i, s.controller.probes.find? name = some i →
      t.isLive i = s.isLive i) : Calm s t where
  health := health
  noting := plain.noting
  metadata := plain.metadata
  probing hs := by
    obtain ⟨ht, live⟩ := assigned hs
    exact ⟨ht, fun name => hasProbe_congr (by rw [plain.probes]) (live name)⟩
  learning := plain.learning health

/-- Timers and what they are held for stay as they are. -/
theorem of_timers (health : SameHealth s t) (plain : Plain s t)
    (timers : t.controller.timers = s.controller.timers)
    (schedule : ∀ k, t.scheduleOf k = s.scheduleOf k)
    (counters : t.controller.countersTimer = s.controller.countersTimer) : Calm s t :=
  of_plain health plain fun hs =>
    ⟨hs.congr (taskOf_congr timers) schedule counters plain.probes, fun _ i _ => by
      rw [isLive, timers]
      rfl⟩

theorem of_controller (health : SameHealth s t) (noting : Noting (·.tellsOfHealth = false) s t)
    (controller : t.controller = s.controller)
    (profiles : t.site.registry.profiles = s.site.registry.profiles)
    (indexes : t.site.indexes = s.site.indexes) : Calm s t :=
  of_timers health ⟨noting, by rw [controller], by rw [controller], profiles, indexes⟩
    (by rw [controller]) (scheduleOf_congr (by rw [controller])) (by rw [controller])

/-- What the controller changes besides. -/
theorem besides {f : Controller → Controller} (h : ∀ c, ((f c).config, (f c).reportsMetadata,
      (f c).timers, (f c).probes, (f c).samplers, (f c).countersTimer) =
      (c.config, c.reportsMetadata, c.timers, c.probes, c.samplers, c.countersTimer)) :
    Within Calm (changeController f : Action σ Unit) := fun s => by
  simp only [Prod.mk.injEq] at h
  obtain ⟨config, metadata, timers, probes, samplers, counters⟩ := h s.controller
  exact of_timers (SameHealth.changeController (fun c => (h c).1) s)
    ⟨.of_eq rfl, metadata, probes, rfl, rfl⟩ timers (scheduleOf_congr samplers) counters

theorem note {e : Effect} (h : e.bearsOnHealth = false) (h' : e.tellsOfHealth = false) :
    Within Calm (changeSite (σ := σ) (Site.note e)) :=
  fun s => of_controller (SameHealth.note h s) (.one rfl h') rfl rfl rfl

theorem announce (source : String) {a : Int64 → Announcement}
    (h : ∀ now, (Effect.announced source (a now)).tellsOfHealth = false) :
    Within Calm (announce (σ := σ) source a) :=
  fun s => of_controller (SameHealth.announce source a s) (.one rfl (h _)) rfl rfl rfl

/-! ## Timers -/

/-- One timer ends, all else stays as it is. -/
structure Retires (i : Nat) (s t : Service σ) : Prop where
  health : SameHealth s t
  plain : Plain s t
  task (j : Nat) : t.taskOf j = s.taskOf j
  live (j : Nat) : t.isLive j = (s.isLive j && decide (i ≠ j))
  schedule (k : Nat) : t.scheduleOf k = s.scheduleOf k
  counters : t.controller.countersTimer = s.controller.countersTimer

theorem Retires.assigned {i : Nat} (h : Retires i s t) (hs : Assigned s) : Assigned t :=
  hs.congr h.task h.schedule h.counters h.plain.probes

/-- The end of a timer that runs no probe. -/
theorem trans_retires {i : Nat} (h : Calm s t) (h' : Retires i t u)
    (hi : Assigned s → ∀ name, t.taskOf i ≠ some (.probe name)) : Calm s u where
  toSilent := h.toSilent.trans ⟨h'.health, h'.plain.noting, h'.plain.metadata⟩
  probing hs := by
    obtain ⟨ht, probes⟩ := h.probing hs
    refine ⟨h'.assigned ht, fun name => (hasProbe_congr ?_ fun j hj => ?_).trans (probes name)⟩
    · rw [h'.plain.probes]
    · rw [h'.live, decide_eq_true, Bool.and_true]
      rintro rfl
      exact hi hs name (ht.probes hj)
  learning hs := by
    obtain ⟨ht, known⟩ := h.learning hs
    obtain ⟨hu, known'⟩ := h'.plain.learning h'.health ht
    exact ⟨hu, fun r i hi => known' r i (known r i hi)⟩

theorem retireTimer_retires (i : Nat) (s : Service σ) : Retires i s ((retireTimer i).after s) where
  health := SameHealth.retireTimer i s
  plain := ⟨.of_eq rfl, rfl, rfl, rfl, rfl⟩
  task j := taskOf_retireTimer i j s
  live j := isLive_retireTimer i j s
  schedule _ := rfl
  counters := rfl

/-- A new timer is held for nothing yet. -/
theorem setTimer (rhythm : Timer.Rhythm) (task : Task) :
    Within Calm (setTimer (σ := σ) rhythm task) := fun s => by
  have old {i : Nat} {x : Task} (hx : s.taskOf i = some x) := setTimer_old rhythm task s hx
  refine of_plain (SameHealth.setTimer rhythm task s) ⟨.of_eq rfl, rfl, rfl, rfl, rfl⟩ fun hs =>
    ⟨⟨fun hk => ?_, fun hi => ?_, fun hi => ?_⟩, fun name i hi => (old (hs.probes hi)).2⟩
  · exact (old (hs.samplers hk)).1
  · exact (old (hs.counters hi)).1
  · exact (old (hs.probes hi)).1

/-! ## Work -/

variable (driver : Driver σ)

theorem index (r : Registration) : Within Calm (onSite (Site.index driver r)) := fun s => by
  have health := SameHealth.index driver r s
  have old {r' : Registration} {i : Index} (h : s.made? r' = some i) := made?_index_old driver r h
  rw [after_onSite] at health old ⊢
  rcases Site.index_cases driver r s.site with h | ⟨i, h⟩
  · rw [h]
    exact refl s
  · rw [h] at health old ⊢
    refine ⟨⟨health, ⟨_, rfl, fun x hx => ?_⟩, rfl⟩,
      fun hs => ⟨⟨hs.samplers, hs.counters, hs.probes⟩, fun _ => rfl⟩,
      fun hs => ⟨⟨fun hr => ?_, fun hd => ?_⟩, fun _ _ => old⟩⟩
    · obtain ⟨resource, _, rfl⟩ := List.mem_map.1 (List.mem_reverse.1 hx)
      rfl
    · exact Nat.lt_of_lt_of_eq (hs.profiles hr) (Numbered.next_modify _ _ _).symm
    · exact Nat.lt_of_lt_of_eq (hs.devices hd) (Numbered.next_modify _ _ _).symm

theorem address (d : Device) : Within Calm (onSite (Site.address driver d)) := fun s => by
  have health := SameHealth.address driver d s
  rw [after_onSite] at health ⊢
  rcases Site.address_cases driver d s.site with ⟨a, _, h⟩ | ⟨_, outcome, state, _, h⟩
  · rw [h]
    exact refl s
  · rw [h] at health ⊢
    cases outcome <;> exact of_controller health (.one rfl rfl) rfl rfl rfl

theorem read (d : Device) (a : Address) (requests : List Request) :
    Within Calm (onSite (Site.read driver d a requests)) :=
  fun s => of_controller (SameHealth.read driver d a requests s) (.one rfl rfl) rfl rfl rfl

theorem write (d : Device) (a : Address) (requests : List Request) (values : List Value) :
    Within Calm (onSite (Site.write driver d a requests values)) :=
  fun s => of_controller (SameHealth.write driver d a requests values s) (.one rfl rfl) rfl rfl rfl

theorem countRead : Within Calm (countRead (σ := σ)) := besides fun _ => rfl

theorem touch (d : Device) : Within Calm (touch (σ := σ) d) :=
  touch_within (note rfl rfl)

theorem cook (d : Device) (c : Command) (results : List Result) :
    Within Calm (cook (σ := σ) d c results) :=
  fun s => of_controller (SameHealth.cook d c results s) (.of_eq rfl) rfl rfl rfl

theorem publish (e : CookedEvent) : Within Calm (publish (σ := σ) e) :=
  publish_within e (fun _ => announce _ fun _ => rfl) (besides fun _ => rfl) (note rfl rfl)

/-- What a sampler remembers is no part of its schedule. -/
theorem remember (number : Nat) (results : List Result) :
    Within Calm (changeSampler (σ := σ) number fun r => { r with snapshot := some results }) :=
  fun s => of_timers (SameHealth.changeSampler number _ s) ⟨.of_eq rfl, rfl, rfl, rfl, rfl⟩ rfl
    (SameSampling.remember number results s).scheduleOf rfl

/-! ## Sampling -/

theorem stopSampler_plain (k : Nat) : Within Plain (stopSampler driver k) :=
  stopSampler_within k (fun _ => ⟨.of_eq rfl, rfl, rfl, rfl, rfl⟩)
    (fun _ _ => ⟨.of_eq rfl, rfl, rfl, rfl, rfl⟩) fun _ _ _ => ⟨.one rfl rfl, rfl, rfl, rfl, rfl⟩

theorem stopSampler (k : Nat) : Within Calm (stopSampler driver k) := fun s => by
  have off := stopSampler_unscheduled driver k s
  have plain := stopSampler_plain driver k s
  refine of_plain (SameHealth.stopSampler driver k s) plain fun hs =>
    ⟨⟨fun {j i} hj => ?_, fun hi => ?_, fun hi => ?_⟩, fun name i hi => ?_⟩
  · rw [off.scheduleOf] at hj
    rw [off.task]
    split at hj
    · cases hj
    · exact hs.samplers hj
  · rw [off.task]
    exact hs.counters (off.counters ▸ hi)
  · rw [off.task]
    exact hs.probes (plain.probes ▸ hi)
  · rw [off.live, decide_eq_true, Bool.and_true]
    intro hk
    have := (hs.samplers hk).symm.trans (hs.probes hi)
    cases this

theorem launch_plain (d : Device) (c : Command) (k : Nat) (r : Sampler) :
    Within Plain (launch driver d c k r) :=
  launch_within d c k r (fun _ => ⟨.of_eq rfl, rfl, rfl, rfl, rfl⟩)
    (fun _ _ => ⟨.one rfl rfl, rfl, rfl, rfl, rfl⟩) fun _ _ => ⟨.of_eq rfl, rfl, rfl, rfl, rfl⟩

theorem launch (d : Device) (c : Command) {k : Nat} {s : Service σ} (r : Sampler)
    (hk : (s.sampler? k).isSome = true) : Calm s ((launch driver d c k r).after s) := by
  have health := SameHealth.launch driver d c k r s
  have plain := launch_plain driver d c k r s
  rcases launch_cases driver d c k r hk with ⟨-, x, on, -⟩ | ⟨-, aside⟩
  · refine of_plain health plain fun hs =>
      ⟨⟨fun {j i} hj => ?_, fun hi => ?_, fun hi => ?_⟩, fun name i hi => ?_⟩
    · rw [on.scheduleOf] at hj
      split at hj
      · rename_i hjk
        obtain ⟨_, _, hx⟩ := Option.map_eq_some_iff.1 hj
        rw [on.task, if_pos hx, hjk]
      · exact on.keeps_task (hs.samplers hj)
    · exact on.keeps_task (hs.counters (on.counters ▸ hi))
    · exact on.keeps_task (hs.probes (plain.probes ▸ hi))
    · rw [on.live, decide_eq_false (on.ne_timer (hs.probes hi)), Bool.false_or]
  · exact of_controller health plain.noting aside.controller plain.profiles plain.indexes

theorem launched (d : Device) (c : Command) (k : Nat) :
    Within Calm (launched driver d c k) := fun s => by
  unfold Service.launched
  rw [after_get_bind]
  cases hr : s.controller.samplers.get? k with
  | none => exact refl s
  | some r => exact launch driver d c r (by rw [sampler?, hr]; rfl)

theorem addSampler (device : String) (a : AutoEvent) (interval : Duration) :
    Within Calm (addSampler (σ := σ) device a interval) := fun s => by
  have added := addSampler_added device a interval s
  exact of_timers (SameHealth.addSampler device a interval s) ⟨.of_eq rfl, rfl, rfl, rfl, rfl⟩
    added.timers added.scheduleOf added.counters

theorem scheduling : Scheduling driver (Calm (σ := σ)) where
  take _ := .bind .get fun _ => .bind (besides fun _ => rfl) fun _ => .pure _
  stop := stopSampler driver
  add := addSampler
  launched := launched driver
  hold _ _ := besides fun _ => rfl

theorem startAutoEvents (device : String) : Within Calm (startAutoEvents driver device) :=
  (scheduling driver).startAutoEvents (index driver) device

theorem stopAutoEvents (device : String) : Within Calm (stopAutoEvents driver device) :=
  (scheduling driver).stopAutoEvents device

theorem stopAllAutoEvents : Within Calm (stopAllAutoEvents driver) :=
  (scheduling driver).stopAllAutoEvents

theorem sampleRegistered (registered : Except DeviceError Device) :
    Within Calm (sampleRegistered driver registered) :=
  sampleRegistered_within (startAutoEvents driver) registered

/-! ## The service -/

theorem announceCounters : Within Calm (announceCounters (σ := σ)) :=
  announceCounters_within fun _ _ => announce _ fun _ => rfl

theorem prepare : Within Calm (onSite (Site.prepare driver)) :=
  fun s => of_controller (SameHealth.prepare driver s) (.one rfl rfl) rfl rfl rfl

theorem shutDown (force : Bool) : Within Calm (changeSite (Site.shutDown driver force)) :=
  fun s => of_controller { SameHealth.refl s with
    reports := fun name => reportsOf_cons_silent rfl name _ _ } (.one rfl rfl) rfl rfl rfl

/-- The timer of the counters gives way to another. -/
theorem startCounters : Within Calm (startCounters (σ := σ)) := fun s => by
  unfold Service.startCounters
  rw [after_get_bind]
  dsimp only
  cases s.controller.config.metricsInterval? with
  | none => exact refl s
  | some interval =>
    let number := s.controller.timers.next
    let u := (Service.setTimer (.periodic interval) .counters).after s
    let hold (c : Controller) : Controller := { c with countersTimer := some number }
    let v := (changeController (σ := σ) hold).after u
    have set : Calm s u := setTimer _ _ s
    have task : u.taskOf number = some .counters := SameSampling.taskOf_setTimer _ _ s
    have held : Calm u v := of_plain
      (SameHealth.changeController (f := hold) (fun _ => rfl) u)
      ⟨.of_eq rfl, rfl, rfl, rfl, rfl⟩ fun hs =>
        ⟨⟨hs.samplers, fun hi => Option.some.inj hi ▸ task, hs.probes⟩, fun _ _ _ => rfl⟩
    cases hc : s.controller.countersTimer with
    | none => exact set.trans held
    | some previous =>
      refine trans_retires (set.trans held) (retireTimer_retires previous v) fun hs name hp => ?_
      have old : u.taskOf previous = some .counters :=
        (setTimer_old _ _ s (hs.counters hc)).1
      cases old.symm.trans hp

theorem start : Within Calm (start driver) :=
  start_within (prepare driver) (startAutoEvents driver) startCounters (besides fun _ => rfl)

theorem setServiceAdminState (state : AdminState) :
    Within Calm (setServiceAdminState (σ := σ) state) :=
  besides fun _ => rfl

theorem setAdminState (name : String) (state : AdminState) :
    Within Calm (setAdminState (σ := σ) name state) := fun s => by
  have health := setAdminState_sameHealth name state s
  unfold Service.setAdminState withDevice at health ⊢
  rw [after_get_bind] at health ⊢
  cases hd : s.device? name with
  | none => exact refl s
  | some d =>
    rw [hd] at health
    exact of_controller health (.of_eq rfl) rfl rfl rfl

theorem addProfile (p : Profile) : Within Calm (addProfile (σ := σ) p) := fun s => by
  have health := SameHealth.addProfile p s
  unfold Service.addProfile at health ⊢
  rw [after_get_bind] at health ⊢
  dsimp only at health ⊢
  cases hr : s.site.registry.addProfile s.site.indexes.next p with
  | error e => exact refl s
  | ok r =>
    rw [hr] at health
    refine ⟨⟨health, .of_eq rfl, rfl⟩, fun hs => ⟨⟨hs.samplers, hs.counters, hs.probes⟩,
      fun _ => rfl⟩, fun hs => ⟨⟨fun {name r'} hp => ?_, fun {name d} hd => ?_⟩, fun r' i hi => ?_⟩⟩
    · show r'.serial < (s.site.indexes.add none).next
      rw [Numbered.next_add]
      change r.profiles.find? name = some r' at hp
      rw [Registry.addProfile_profiles hr, Dict.find?_insert] at hp
      split at hp
      · cases hp
        exact Nat.lt_succ_self _
      · exact Nat.lt_succ_of_lt (hs.profiles hp)
    · show d.registration.serial < (s.site.indexes.add none).next
      rw [Numbered.next_add]
      change r.devices.find? name = some d at hd
      rw [Registry.addProfile_devices hr] at hd
      exact Nat.lt_succ_of_lt (hs.devices hd)
    · show ((s.site.indexes.add none).get? r'.serial).join = some i
      rw [Numbered.get?_add, if_neg]
      · exact hi
      · intro hn
        rw [made?, (Site.get?_eq_none_iff _ _).2 (Nat.le_of_eq hn.symm)] at hi
        cases hi

theorem removeProfile (name : String) : Within Calm (removeProfile (σ := σ) name) := fun s => by
  have health := SameHealth.removeProfile name s
  unfold Service.removeProfile at health ⊢
  rw [after_get_bind] at health ⊢
  cases hr : s.site.registry.removeProfile name with
  | error e => exact refl s
  | ok r =>
    rw [hr] at health
    refine ⟨⟨health, .of_eq rfl, rfl⟩, fun hs => ⟨⟨hs.samplers, hs.counters, hs.probes⟩,
      fun _ => rfl⟩, fun hs => ⟨⟨fun {n r'} hp => ?_, fun {n d} hd => ?_⟩, fun _ _ => id⟩⟩
    · change r.profiles.find? n = some r' at hp
      rw [Registry.removeProfile_profiles hr, Dict.find?_erase] at hp
      split at hp
      · cases hp
      · exact hs.profiles hp
    · change r.devices.find? n = some d at hd
      rw [Registry.removeProfile_devices hr] at hd
      exact hs.devices hd

end Calm

end FieldGateway.Service
