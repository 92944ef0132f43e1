import FieldGateway.Driver.Simulated
import FieldGateway.Proofs.Health.ClosedForm
import FieldGateway.Proofs.Sampling.Start
import Mathlib.Data.List.Nodup

/-
  Schedules that nobody can end. An operation starts devices, `starts` says which and on what
  service; a run is `ClashFree` if none of its starts is a clash. After such a run every schedule
  that runs is that of one sampler, on the list of its device, and it ends when the device is
  stopped; and the next operation orphans a schedule if and only if one of its starts is a clash
  (`orphaned_iff_clash`). A device whose auto-events are all different cannot clash
  (`not_clash_of_nodup`).
-/

namespace FieldGateway.Service

open FieldGateway.Action

variable {σ : Type} (driver : Driver σ)

/-! ## Starts -/

/-- Devices that are started one after the other, each with the service it is started on. -/
def startsOf : List String → Service σ → List (String × Service σ)
  | [], _ => []
  | device :: rest, s => (device, s) :: startsOf rest ((startAutoEvents driver device).after s)

/-- The start of a device that was put on record, if the service runs. -/
def startRegistered (registered : Except DeviceError Device) (s : Service σ) :
    List (String × Service σ) :=
  match registered with
  | .error _ => []
  | .ok d => if s.controller.running then [(d.name, s)] else []

/-- The devices that an operation starts, each with the service it is started on. -/
def starts (s : Service σ) : Operation σ → List (String × Service σ)
  | .addDevice config =>
    startRegistered ((insertDevice driver config).result s) ((insertDevice driver config).after s)
  | .updateDevice config =>
    startRegistered ((replaceDevice driver config).result s)
      ((replaceDevice driver config).after s)
  | .startAutoEvents device => [(device, s)]
  | .start =>
    match (onSite (Site.prepare driver)).result s with
    | .error _ => []
    | .ok _ =>
      let prepared := (onSite (Site.prepare driver)).after s
      startsOf driver prepared.site.registry.devices.keys prepared
  | _ => []

def Clashes (starts : List (String × Service σ)) : Prop := ∃ p ∈ starts, Clash driver p.1 p.2

theorem clashes_startAutoEvents {driver : Driver σ} {s : Service σ} {device : String}
    (h : Clash driver device s) : Clashes driver (starts driver s (.startAutoEvents device)) :=
  ⟨(device, s), List.mem_singleton_self _, h⟩

/-- No start of a run is a clash. -/
def ClashFree (s : Service σ) : List (Operation σ) → Prop
  | [] => True
  | op :: ops => ¬ Clashes driver (starts driver s op) ∧ ClashFree (perform driver s op) ops

/-! ## Devices without repeated auto-events -/

theorem planned?_eq_some {d : Device} {a : AutoEvent} {s : Service σ} {plan : Plan}
    (h : planned? driver d a s = some plan) : a.plan? = some plan := by
  unfold planned? at h
  unfold AutoEvent.plan?
  cases hi : Duration.interval? a.interval with
  | none => simp [hi] at h
  | some interval =>
    simp only [hi] at h
    split at h
    · cases h
    · split at h
      · exact h
      · cases h

theorem plans_sublist (d : Device) (previous : List Nat) (autoEvents : List AutoEvent)
    (s : Service σ) :
    (plans driver d previous autoEvents s).Sublist (autoEvents.filterMap (·.plan?)) := by
  induction autoEvents generalizing s with
  | nil => exact .slnil
  | cons a rest ih =>
    rw [plans]
    cases hp : planned? driver d a s with
    | none =>
      rw [Option.toList_none, List.nil_append]
      refine (ih _).trans ?_
      rw [List.filterMap_cons]
      split
      · exact .refl _
      · exact .cons _ (.refl _)
    | some plan =>
      rw [Option.toList_some, List.singleton_append,
        List.filterMap_cons_some (planned?_eq_some driver hp)]
      exact (ih _).cons_cons plan

theorem not_clash_of_nodup {device : String} {s : Service σ}
    (h : ∀ d, s.device? device = some d → (d.autoEvents.filterMap (·.plan?)).Nodup) :
    ¬ Clash driver device s := by
  rintro ⟨d, plan, hd, _, htwice⟩
  have hsub := (plans_sublist driver d (s.samplersOf device) d.autoEvents
    ((stopAutoEvents driver device).after s)).count_le plan
  have hone := List.nodup_iff_count_le_one.1 (h d hd) plan
  omega

/-! ## Operations -/

variable {driver} {allowed : Nat} {s t : Service σ}

theorem Sound.same (h : Sound driver s.samplersOf s) (same : SameSampling s t) :
    Sound driver t.samplersOf t := by
  have : t.samplersOf = s.samplersOf := by
    funext n
    rw [samplersOf, same.sampling]
    rfl
  rw [this]
  exact h.sameSampling same

theorem sound_of_fresh (h : Fresh s) : Sound driver s.samplersOf s := by
  have sampler (k : Nat) : s.sampler? k = none := by
    rw [sampler?, h.samplers]
    rfl
  have schedule (k : Nat) : s.scheduleOf k = none := by rw [scheduleOf, sampler]; rfl
  have task (i : Nat) : s.taskOf i = none := by rw [taskOf, h.timers]; rfl
  constructor
  case balanced =>
    intro handle
    rw [started, stopped, holders, h.trace, h.samplers]
    rfl
  case ours =>
    intro device k hk
    rw [samplersOf, h.sampling] at hk
    cases hk
  all_goals simp [sampler, schedule, task, h.countersTimer]

/-- Sampling is sound, and devices are registered under their names. -/
structure Orderly (driver : Driver σ) (allowed : Nat) (s : Service σ) : Prop where
  sound : Sound driver s.samplersOf s
  accounted : Accounted allowed s

theorem startAutoEvents_orderly (h : Orderly driver allowed s) {device : String}
    (hc : ¬ Clash driver device s) :
    Orderly driver allowed ((startAutoEvents driver device).after s) where
  sound := startAutoEvents_sound driver h.sound (fun _ hd => h.accounted.named hd) hc
  accounted := h.accounted.sameHealth (SameHealth.startAutoEvents driver device s)

/-- Starts one after the other: sampling stays sound, or one of them is a clash and a schedule is
astray in the end. -/
theorem startsOf_cases (h : Orderly driver allowed s) (devices : List String) :
    let t := (devices.forM (startAutoEvents driver)).after s
    (¬ Clashes driver (startsOf driver devices s) → Orderly driver allowed t) ∧
      (Clashes driver (startsOf driver devices s) → Stray t) := by
  have astray (devices : List String) (s : Service σ) (h : Stray s) :
      Stray ((devices.forM (startAutoEvents driver)).after s) := by
    induction devices generalizing s with
    | nil => exact h
    | cons device rest ih => exact ih _ (h.startAutoEvents driver device)
  induction devices generalizing s with
  | nil => exact ⟨fun _ => h, fun ⟨_, hp, _⟩ => by cases hp⟩
  | cons device rest ih =>
    intro t
    have ht : t = (rest.forM (startAutoEvents driver)).after
        ((startAutoEvents driver device).after s) := rfl
    rw [ht]
    by_cases hc : Clash driver device s
    · refine ⟨fun hn => absurd ⟨_, List.mem_cons_self, hc⟩ hn, fun _ => astray rest _ ?_⟩
      exact startAutoEvents_stray_of_clash driver h.sound (fun _ hd => h.accounted.named hd) hc
    · obtain ⟨hsound, hstray⟩ := ih (startAutoEvents_orderly h hc)
      refine ⟨fun hn => hsound fun ⟨p, hp, hpc⟩ => hn ⟨p, List.mem_cons_of_mem _ hp, hpc⟩, ?_⟩
      rintro ⟨p, hp, hpc⟩
      rcases List.mem_cons.1 hp with rfl | hp
      · exact absurd hpc hc
      · exact hstray ⟨p, hp, hpc⟩

/-- The timer of the counters that gives way is no schedule. -/
theorem Stray.startCounters (h : Stray s) : Stray ((startCounters (σ := σ)).after s) := by
  unfold Service.startCounters
  rw [after_get_bind]
  dsimp only
  cases s.controller.config.metricsInterval? with
  | none => exact h
  | some interval =>
    let u := (changeController (σ := σ) fun c =>
      { c with countersTimer := some s.controller.timers.next }).after
        ((setTimer (.periodic interval) .counters).after s)
    rcases h with ⟨i, k, ht, hl, hj, hi⟩ | ⟨handle, hlt⟩
    · have hn : i ≠ s.controller.timers.next := by
        rintro rfl
        rw [taskOf, (Site.get?_eq_none_iff _ _).2 (Nat.le_refl _)] at ht
        cases ht
      have hut : u.taskOf i = some (.sample k) := by
        show ((s.controller.timers.add _).get? i).map _ = _
        rw [Numbered.get?_add, if_neg hn]
        exact ht
      have hul : u.isLive i = true := by
        show ((s.controller.timers.add _).get? i).any _ = _
        rw [Numbered.get?_add, if_neg hn]
        exact hl
      have hui : u.controller.countersTimer ≠ some i := fun hc => hn (Option.some.inj hc).symm
      cases hc : s.controller.countersTimer with
      | none => exact .inl ⟨i, k, hut, hul, hj, hui⟩
      | some previous =>
        have hp : previous ≠ i := fun he => hi (he ▸ hc)
        refine .inl ⟨i, k, (taskOf_retireTimer previous i u).trans hut, ?_, hj, hui⟩
        refine (isLive_retireTimer previous i u).trans ?_
        rw [hul, decide_eq_true hp, Bool.true_and]
    · refine .inr ⟨handle, ?_⟩
      cases s.controller.countersTimer <;> exact hlt

theorem Stray.running (h : Stray s) :
    Stray ((changeController (σ := σ) fun c => { c with running := true }).after s) :=
  h

theorem sampleRegistered_cases (h : Orderly driver allowed s)
    (registered : Except DeviceError Device) :
    let t := (sampleRegistered driver registered).after s
    (¬ Clashes driver (startRegistered registered s) → Sound driver t.samplersOf t) ∧
      (Clashes driver (startRegistered registered s) → Stray t) := by
  intro t
  cases registered with
  | error e => exact ⟨fun _ => h.sound, fun ⟨_, hp, _⟩ => by cases hp⟩
  | ok d =>
    have ht : t = if s.controller.running = true then (startAutoEvents driver d.name).after s
        else s := by
      unfold t sampleRegistered
      dsimp only
      rw [after_get_bind]
      split <;> rfl
    rw [ht, startRegistered]
    split
    · obtain ⟨hsound, hstray⟩ := startsOf_cases h [d.name]
      exact ⟨fun hn => (hsound hn).sound, hstray⟩
    · exact ⟨fun _ => h.sound, fun ⟨_, hp, _⟩ => by cases hp⟩

/-- A service that is started: its devices are, then its counters. -/
theorem start_cases (h : Orderly driver allowed s) :
    let t := (start driver).after s
    (¬ Clashes driver (starts driver s .start) → Sound driver t.samplersOf t) ∧
      (Clashes driver (starts driver s .start) → Stray t) := by
  let u := (onSite (Site.prepare driver)).after s
  have hu : Orderly driver allowed u :=
    ⟨h.sound.same (SameSampling.prepare driver s), h.accounted.sameHealth
      (SameHealth.prepare driver s)⟩
  intro t
  cases hr : (onSite (Site.prepare driver)).result s with
  | error e =>
    have ht : t = u := by
      unfold t start
      rw [after_bind, hr]
      rfl
    have hs : starts driver s .start = [] := by
      unfold starts
      rw [hr]
    rw [ht, hs]
    exact ⟨fun _ => hu.sound, fun ⟨_, hp, _⟩ => by cases hp⟩
  | ok x =>
    let v := (u.site.registry.devices.keys.forM (startAutoEvents driver)).after u
    have ht : t = (changeController (σ := σ) fun c => { c with running := true }).after
        (startCounters.after v) := by
      unfold t start
      rw [after_bind, hr]
      dsimp only
      rw [after_get_bind, after_bind, after_bind, after_bind, after_pure]
    have hs : starts driver s .start = startsOf driver u.site.registry.devices.keys u := by
      unfold starts
      rw [hr]
    obtain ⟨hsound, hstray⟩ := startsOf_cases hu u.site.registry.devices.keys
    rw [ht, hs]
    refine ⟨fun hn => ?_, fun hc => (hstray hc).startCounters.running⟩
    exact ((hsound hn).sound.same (SameSampling.startCounters v)).same
      (SameSampling.setRunning true _)

/-- A service that is stopped: its samplers are, then its probes and its counters. -/
theorem stop_sound (force : Bool) :
    Keeps (fun s => Sound driver s.samplersOf s) (stop driver force) := by
  have same {α : Type} {a : Action σ α} (ha : Within SameSampling a) :
      Keeps (fun s => Sound driver s.samplersOf s) a := fun s hs => hs.same (ha s)
  have stopAll : Keeps (fun s => Sound driver s.samplersOf s) (stopAllAutoEvents driver) :=
    .bind .get fun _ => .forM fun device s hs => (stopAutoEvents_sound driver hs device).1
  refine .bind (same (SameSampling.setRunning false)) fun _ => .bind stopAll fun _ =>
    .bind (same SameSampling.cancelAllProbes) fun _ => .bind .get fun s => ?_
  dsimp only
  cases s.controller.countersTimer with
  | none => exact same (SameSampling.shutDown driver force)
  | some number =>
    exact .bind (same SameSampling.clearCounters) fun _ =>
      .bind (same (SameSampling.retireTimer number)) fun _ =>
        same (SameSampling.shutDown driver force)

/-- One operation: sampling stays sound, or one of its starts is a clash and a schedule is
astray. -/
theorem perform_cases (h : Orderly driver allowed s) (op : Operation σ) :
    let t := perform driver s op
    (¬ Clashes driver (starts driver s op) → Sound driver t.samplersOf t) ∧
      (Clashes driver (starts driver s op) → Stray t) := by
  have quiet {t : Service σ} (ht : Sound driver t.samplersOf t) :
      (¬ Clashes driver [] → Sound driver t.samplersOf t) ∧ (Clashes driver [] → Stray t) :=
    ⟨fun _ => ht, fun ⟨_, hp, _⟩ => by cases hp⟩
  have work {name : String} {t : Service σ} (ht : WorkOn driver name s t) :
      Sound driver t.samplersOf t := h.sound.same (SameSampling.workOn driver ht)
  cases op with
  | addProfile p => exact quiet (h.sound.same (SameSampling.addProfile p s))
  | removeProfile name => exact quiet (h.sound.same (SameSampling.removeProfile name s))
  | addDevice config =>
    have inserted : Orderly driver allowed ((insertDevice driver config).after s) :=
      ⟨h.sound.same (SameSampling.insertDevice driver config s),
        insertDevice_accounted driver config s h.accounted⟩
    exact sampleRegistered_cases inserted _
  | updateDevice config =>
    have replaced : Orderly driver allowed ((replaceDevice driver config).after s) :=
      ⟨h.sound.same (SameSampling.replaceDevice driver config s),
        replaceDevice_accounted driver config s h.accounted⟩
    exact sampleRegistered_cases replaced _
  | removeDevice name =>
    have off := (stopAutoEvents_sound driver h.sound name).1
    exact quiet ((off.same (SameSampling.cancelProbe name _)).same
      (SameSampling.dropDevice driver name _))
  | setAdminState name state => exact quiet (h.sound.same (SameSampling.setAdminState name state s))
  | setServiceAdminState state =>
    exact quiet (h.sound.same (SameSampling.setServiceAdminState state s))
  | deviceCommand | execute | postReadings | noteSuccess | noteFailure =>
    exact quiet (work (perform_chores driver rfl s).workOn)
  | startAutoEvents name =>
    obtain ⟨hsound, hstray⟩ := startsOf_cases h [name]
    exact ⟨fun hn => (hsound hn).sound, hstray⟩
  | stopAutoEvents name => exact quiet (stopAutoEvents_sound driver h.sound name).1
  | start => exact start_cases h
  | stop force => exact quiet (stop_sound force s h.sound)
  | fire timer => exact quiet (h.sound.same (SameSampling.fireTimer driver timer s))
  | pass millis timeOfDay => exact quiet (h.sound.same (.ofAside ⟨rfl, .of_eq rfl⟩))
  | change f => exact quiet (h.sound.same (.ofAside ⟨rfl, .of_eq rfl⟩))

/-! ## Runs -/

theorem performAll_orderly (h₀ : Orderly driver allowed s) (ops : List (Operation σ))
    (hfree : ClashFree driver s ops) : Orderly driver allowed (performAll driver s ops) := by
  induction ops generalizing s with
  | nil => exact h₀
  | cons op ops ih =>
    exact ih ⟨(perform_cases h₀ op).1 hfree.1, perform_accounted driver s op h₀.accounted⟩ hfree.2

theorem holders_eq_zero {handle : Handle} (h : ∀ k, s.scheduleOf k ≠ some (.driver handle)) :
    s.holders handle = 0 := by
  refine List.countP_eq_zero.2 fun r hr => ?_
  obtain ⟨k, hk, hget⟩ := List.getElem_of_mem hr
  have hs := h k
  rw [scheduleOf_eq, Numbered.get?, ← Array.getElem?_toList] at hs
  rw [show s.controller.samplers.items.toList[k]? = some r from
    List.getElem?_eq_some_iff.2 ⟨hk, hget⟩] at hs
  simpa using hs

/-- A device that is stopped: none of its timers runs, and what the driver took up for it alone it
was told to stop. -/
theorem stopped_for_good (h : Sound driver s.samplersOf s) (device : String) :
    let t := (stopAutoEvents driver device).after s
    (∀ i k r, t.taskOf i = some (.sample k) → t.sampler? k = some r → r.device = device →
      t.isLive i = false) ∧
    ∀ handle, (∀ k r, t.sampler? k = some r → r.device ≠ device →
      r.schedule ≠ some (.driver handle)) → t.started handle = t.stopped handle := by
  intro t
  obtain ⟨ht, -, hlists⟩ := stopAutoEvents_sound driver h device
  have off {k : Nat} {r : Sampler} (hr : t.sampler? k = some r) (hd : r.device = device) :
      r.schedule = none := by
    by_contra hs
    have := ht.listed hr hs
    rw [hlists, if_pos hd] at this
    cases this
  refine ⟨fun i k r hi hr hd => ?_, fun handle others => ?_⟩
  · rw [← Bool.not_eq_true]
    intro hl
    have hk := ht.held hi hl
    rw [scheduleOf, hr] at hk
    change r.schedule = _ at hk
    rw [off hr hd] at hk
    cases hk
  · rw [ht.balanced handle, holders_eq_zero, Nat.add_zero]
    intro k hk
    obtain ⟨r, hr, hs⟩ := scheduleOf_eq_some.1 hk
    by_cases hd : r.device = device
    · rw [off hr hd] at hs
      cases hs
    · exact others k r hr hd hs

variable (driver)

/-- As long as no start is a clash, every timer that samples is the schedule of one sampler, on
the list of its device, and no sampler has two; the driver was told to stop each sampling as often
as it took it up, but for the samplers that are on it; and stopping a device ends all that runs
for it. The first operation of which a start is a clash, and no other, orphans a schedule. -/
theorem orphaned_iff_clash {s₀ : Service σ} (h₀ : Fresh s₀) (ops : List (Operation σ))
    (hfree : ClashFree driver s₀ ops) :
    let s := performAll driver s₀ ops
    (∀ i k, s.taskOf i = some (.sample k) → s.isLive i = true →
      (∃ r, s.sampler? k = some r ∧ k ∈ s.samplersOf r.device) ∧
      (∀ j, s.scheduleOf j = some (.timer i) ↔ j = k) ∧
      ∀ i', s.taskOf i' = some (.sample k) → s.isLive i' = true → i' = i) ∧
    (∀ handle, s.started handle = s.stopped handle + s.holders handle) ∧
    (∀ k r handle, s.sampler? k = some r → r.schedule = some (.driver handle) →
      k ∈ s.samplersOf r.device) ∧
    (∀ device, let t := (stopAutoEvents driver device).after s
      (∀ i k r, t.taskOf i = some (.sample k) → t.sampler? k = some r → r.device = device →
        t.isLive i = false) ∧
      ∀ handle, (∀ k r, t.sampler? k = some r → r.device ≠ device →
        r.schedule ≠ some (.driver handle)) → t.started handle = t.stopped handle) ∧
    ∀ op, Orphaned (perform driver s op) ↔ Clashes driver (starts driver s op) := by
  intro s
  have h : Orderly driver s₀.controller.config.allowedFails s :=
    performAll_orderly ⟨sound_of_fresh h₀, .ofFresh h₀⟩ ops hfree
  refine ⟨fun i k hi hl => ⟨?_, fun j => ⟨fun hj => ?_, ?_⟩, fun i' hi' hl' => ?_⟩,
    h.sound.balanced, fun k r handle hr hs => ?_, stopped_for_good h.sound, fun op => ⟨?_, ?_⟩⟩
  · obtain ⟨r, hr, hs⟩ := scheduleOf_eq_some.1 (h.sound.held hi hl)
    exact ⟨r, hr, h.sound.listed hr (by rw [hs]; nofun)⟩
  · have := h.sound.own hj
    rw [hi] at this
    cases this
    rfl
  · rintro rfl
    exact h.sound.held hi hl
  · have := (h.sound.held hi hl).symm.trans (h.sound.held hi' hl')
    cases this
    rfl
  · exact h.sound.listed hr (by rw [hs]; nofun)
  · intro horphan
    by_contra hc
    exact ((perform_cases h op).1 hc).not_orphaned horphan
  · exact fun hc => ((perform_cases h op).2 hc).orphaned

/-- A device with one auto-event given twice: the first start is no clash, the second one is. -/
theorem orphan_of_repeated_autoEvent :
    let driver := Simulation.driver false
    let s₀ := ofConfig {} 0 {}
    let ops : List (Operation Simulation) :=
      [.addProfile { name := "pump", resources :=
         [{ name := "level", properties := { type := .scalar (.int .int32) } }] },
       .addDevice { name := "p1", profileName := "pump",
                    autoEvents := [⟨"level", "1s", false⟩, ⟨"level", "1s", false⟩] },
       .startAutoEvents "p1"]
    ClashFree driver s₀ ops ∧
      Orphaned (perform driver (performAll driver s₀ ops) (.startAutoEvents "p1")) := by
  intro driver s₀ ops
  have none : ¬ Clashes driver [] := fun ⟨_, hp, _⟩ => by cases hp
  have hfree : ClashFree driver s₀ ops := by
    refine ⟨none, none, ?_, trivial⟩
    rintro ⟨p, hp, d, plan, _, hfit, _⟩
    cases List.mem_singleton.1 hp
    cases hfit
  let s := performAll driver s₀ ops
  let plan : Plan := ⟨"level", ⟨1000000000⟩, false⟩
  have hclash : Clash driver "p1" s := by
    obtain ⟨d, hd⟩ := Option.isSome_iff_exists.1 (by decide : (s.device? "p1").isSome = true)
    have htwice : (s.device? "p1").all (fun d => 2 ≤ (plans driver d (s.samplersOf "p1")
        d.autoEvents ((stopAutoEvents driver "p1").after s)).count plan) = true := by decide
    rw [hd] at htwice
    exact ⟨d, plan, hd, by decide, by simpa using htwice⟩
  obtain ⟨-, -, -, -, horphan⟩ := orphaned_iff_clash driver (ofConfig_fresh _ _ _) ops hfree
  exact ⟨hfree, (horphan (.startAutoEvents "p1")).2 (clashes_startAutoEvents hclash)⟩

end FieldGateway.Service
