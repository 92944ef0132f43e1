import FieldGateway.Driver.Simulated
import FieldGateway.Proofs.Health.ClosedForm
import FieldGateway.Proofs.Sampling.Resumed

/-
  The sampling of a device is started over. The schedules that its samplers were on end first
  (`HasEnded`), then its auto-events get their samplers. For that the lists of samplers have to be
  in order (`Restartable`), which they are after every run (`Restartable.performAll`); what comes of
  it for the samplers of the device is `restart_resumes`.
-/

namespace FieldGateway.Service

open FieldGateway.Action

variable {σ : Type} {driver : Driver σ} {s t u : Service σ}

/-! ## Stopping before starting -/

/-- Schedules end: no timer comes back, the driver is told to stop what it took up, and no new one
is launched. -/
structure Winding (s t : Service σ) : Prop where
  task (i : Nat) : t.taskOf i = s.taskOf i
  live {i : Nat} : s.isLive i = false → t.isLive i = false
  stopped (h : Handle) : s.stopped h ≤ t.stopped h
  driven : ∀ k h, t.scheduleOf k = some (.driver h) → s.scheduleOf k = some (.driver h)
  noting : Noting (·.isLaunch = false) s t

namespace Winding

instance : Std.Refl (Winding (σ := σ)) :=
  ⟨fun _ => ⟨fun _ => rfl, id, fun _ => Nat.le_refl _, fun _ _ => id, .of_eq rfl⟩⟩

instance : IsTrans (Service σ) Winding :=
  ⟨fun _ _ _ h h' => ⟨fun i => (h'.task i).trans (h.task i), fun hi => h'.live (h.live hi),
    fun x => Nat.le_trans (h.stopped x) (h'.stopped x),
    fun k x hk => h.driven k x (h'.driven k x hk), h.noting.trans h'.noting⟩⟩

variable (driver)

theorem stopSampler (k : Nat) : Within Winding (stopSampler driver k) := by
  intro s
  have off := stopSampler_unscheduled driver k s
  refine ⟨off.task, fun {i} hi => ?_, fun h => ?_, fun j h hj => ?_, ?_⟩
  · rw [off.live, hi, Bool.false_and]
  · rw [off.stopped]
    exact Nat.le_add_right _ _
  · rw [off.scheduleOf] at hj
    split at hj
    · cases hj
    · exact hj
  · exact stopSampler_within k (fun _ => .of_eq rfl) (fun _ _ => .of_eq rfl)
      (fun _ _ _ => .one rfl rfl) s

theorem stopAutoEvents (device : String) : Within Winding (stopAutoEvents driver device) :=
  stopAutoEvents_within
    (fun _ => ⟨fun _ => rfl, id, fun _ => Nat.le_refl _, fun _ _ => id, .of_eq rfl⟩)
    (stopSampler driver)

end Winding

/-- A schedule has ended: its timer is retired, or the driver was told to stop it. -/
def HasEnded (x : Schedule) (s t : Service σ) : Prop :=
  match x with
  | .timer i => t.isLive i = false
  | .driver h => s.stopped h < t.stopped h

theorem HasEnded.onward {x : Schedule} (h : HasEnded x s t) (winding : Winding t u) :
    HasEnded x s u := by
  cases x with
  | timer i => exact winding.live h
  | driver handle => exact Nat.lt_of_lt_of_le h (winding.stopped handle)

theorem HasEnded.since {x : Schedule} (h : HasEnded x t u) (winding : Winding s t) :
    HasEnded x s u := by
  cases x with
  | timer i => exact h
  | driver handle => exact Nat.lt_of_le_of_lt (winding.stopped handle) h

/-- Only drivers that sample have samplers on schedules of theirs. -/
def Driven (driver : Driver σ) (s : Service σ) : Prop :=
  ∀ k h, s.scheduleOf k = some (.driver h) → driver.sampling.isSome = true

variable (driver) in
theorem stopSampler_ended {k : Nat} {x : Schedule} (driven : Driven driver s)
    (hx : s.scheduleOf k = some x) : HasEnded x s ((stopSampler driver k).after s) := by
  have off := stopSampler_unscheduled driver k s
  cases x with
  | timer i =>
    show Service.isLive _ i = false
    rw [off.live, hx]
    simp
  | driver handle =>
    show s.stopped handle < Service.stopped _ handle
    rw [off.stopped, if_pos ⟨driven k handle hx, hx⟩]
    exact Nat.lt_succ_self _

variable (driver) in
theorem stopSamplers_ended {numbers : List Nat} {k : Nat} {x : Schedule} (driven : Driven driver s)
    (hk : k ∈ numbers) (hx : s.scheduleOf k = some x) :
    HasEnded x s ((numbers.forM (stopSampler driver)).after s) := by
  induction numbers generalizing s with
  | nil => cases hk
  | cons j rest ih =>
    have first := Winding.stopSampler driver j s
    have others : Within Winding (rest.forM (stopSampler driver)) :=
      .forM (Winding.stopSampler driver)
    show HasEnded x s ((rest.forM (stopSampler driver)).after ((stopSampler driver j).after s))
    by_cases hjk : k = j
    · subst hjk
      exact (stopSampler_ended driver driven hx).onward (others _)
    · refine (ih (fun k h hs => driven k h (first.driven k h hs)) ?_ ?_).since first
      · exact (List.mem_cons.1 hk).resolve_left hjk
      · rw [(stopSampler_unscheduled driver j s).scheduleOf, if_neg hjk]
        exact hx

/-! ## Samplers on the lists of devices -/

/-- The sampling of any device can be started over: the commands of profiles are those that are
kept, devices are registered under their names, what is on the list of a device is a sampler of it,
and only drivers that sample have samplers on schedules of theirs. -/
structure Restartable (driver : Driver σ) (s : Service σ) : Prop where
  listed : Listed s
  named {name : String} {d : Device} : s.device? name = some d → d.name = name
  ours (device : String) : Before device (s.samplersOf device) s
  driven : Driven driver s

theorem memory?_of_sampler? {k : Nat} {device : String}
    (h : ∃ r, s.sampler? k = some r ∧ r.device = device) :
    ∃ m, s.memory? k = some m ∧ m.device = device := by
  obtain ⟨r, hr, hd⟩ := h
  obtain ⟨m, hm⟩ := exists_memory? hr
  exact ⟨m, hm, (plan_of_memory? hm hr).2.trans hd⟩

theorem sampler?_of_memory? {k : Nat} {device : String}
    (h : ∃ m, s.memory? k = some m ∧ m.device = device) :
    ∃ r, s.sampler? k = some r ∧ r.device = device := by
  obtain ⟨m, hm, hd⟩ := h
  cases hr : s.sampler? k with
  | none =>
    rw [memory?_eq_none_iff.2 hr] at hm
    cases hm
  | some r => exact ⟨r, rfl, (plan_of_memory? hm hr).2.symm.trans hd⟩

namespace Restartable

theorem of_fresh (h : Fresh s) : Restartable driver s := by
  have sampler (k : Nat) : s.sampler? k = none := by
    rw [sampler?, h.samplers]
    rfl
  refine ⟨.of_fresh h, fun {name d} hd => ?_, fun device k hk => ?_, fun k handle hk => ?_⟩
  · rw [device?, Registry.device?, h.registry] at hd
    cases hd
  · rw [samplersOf, h.sampling] at hk
    cases hk
  · rw [scheduleOf, sampler] at hk
    cases hk

theorem same (h : Restartable driver s) (same : SameSampling s t) (listed : Listed t)
    (named : ∀ {name d}, t.device? name = some d → d.name = name) : Restartable driver t where
  listed := listed
  named := named
  ours device k hk := by
    have before : k ∈ s.samplersOf device := by
      rw [samplersOf, same.sampling] at hk
      exact hk
    refine memory?_of_sampler? ?_
    rw [same.sampler]
    exact sampler?_of_memory? (h.ours device k before)
  driven k handle hk := by
    rw [same.scheduleOf] at hk
    exact h.driven k handle hk

theorem named_of_devices (h : Restartable driver s)
    (devices : t.site.registry.devices = s.site.registry.devices) {name : String} {d : Device}
    (hd : t.device? name = some d) : d.name = name := by
  rw [device?, Registry.device?, devices] at hd
  exact h.named hd

variable (driver)

theorem samplersOf_stopAutoEvents (device : String) (s : Service σ) (n : String) :
    ((stopAutoEvents driver device).after s).samplersOf n =
      if n = device then [] else s.samplersOf n := by
  have kept (numbers : List Nat) (u : Service σ) :
      ((numbers.forM (stopSampler driver)).after u).controller.sampling =
        u.controller.sampling := by
    induction numbers generalizing u with
    | nil => rfl
    | cons k rest ih =>
      exact (ih _).trans (stopSampler_unscheduled driver k u).sampling
  rw [samplersOf, show ((stopAutoEvents driver device).after s).controller.sampling =
    s.controller.sampling.erase device from kept _ _, Dict.find?_erase]
  by_cases hn : n = device
  · rw [if_pos hn, if_pos hn.symm]
    rfl
  · rw [if_neg hn, if_neg (Ne.symm hn)]
    rfl

theorem stopAutoEvents (device : String) :
    Keeps (Restartable driver) (stopAutoEvents driver device) := by
  intro s h
  refine ⟨listed_of_still (Still.stopAutoEvents driver device) s h.listed,
    h.named_of_devices (SameHealth.stopAutoEvents driver device s).devices, fun n k hk => ?_,
    fun k handle hk => ?_⟩
  · rw [samplersOf_stopAutoEvents] at hk
    split at hk
    · cases hk
    · rw [SameMemory.stopAutoEvents driver device s k]
      exact h.ours n k hk
  · exact h.driven k handle ((Winding.stopAutoEvents driver device s).driven k handle hk)

theorem driven_launching : Launching driver (Onward (Driven driver)) where
  add device a interval s h k handle hk := by
    rw [(addSampler_added device a interval s).scheduleOf] at hk
    exact h k handle hk
  launched d c number s h k handle hk := by
    cases known : s.sampler? number with
    | none =>
      have unknown : s.controller.samplers.get? number = none := by simpa [sampler?] using known
      have same : (launched driver d c number).after s = s := by
        unfold Service.launched
        rw [after_get_bind, unknown]
        rfl
      rw [same] at hk
      exact h k handle hk
    | some r =>
      rcases launched_cases driver d c ⟨r, known, rfl⟩ with ⟨-, x, on, taken⟩ | ⟨-, aside⟩
      · rw [on.scheduleOf] at hk
        split at hk
        · obtain ⟨-, -, rfl⟩ := Option.map_eq_some_iff.1 hk
          exact taken handle rfl
        · exact h k handle hk
      · rw [aside.scheduleOf] at hk
        exact h k handle hk

/-- What the start of a registered device comes to, its schedules ended. -/
theorem started (h : Restartable driver s) {device : String} {d : Device}
    (registered : s.device? device = some d) :
    let off := (Service.stopAutoEvents driver device).after s
    let started := startSamplers driver d (s.samplersOf device) d.autoEvents
    Further off (started.after off) ∧
      List.Forall₂ (Resumes d (s.samplersOf device) off (started.after off))
        (d.autoEvents.filterMap (usable? driver off d)) (started.result off) ∧
      (started.result off).Pairwise fun j k => off.memory? k = none → j ≠ k := by
  intro off started
  have listed : Listed off := listed_of_still (Still.stopAutoEvents driver device) s h.listed
  have kept : off.device? device = some d := by
    rw [device?, Registry.device?, (SameHealth.stopAutoEvents driver device s).devices]
    exact registered
  have before : Before d.name (s.samplersOf device) off := fun k hk => by
    rw [SameMemory.stopAutoEvents driver device s k, h.named registered]
    exact h.ours device k hk
  exact startSamplers_resumes driver before ⟨listed.placed (onRecord_of_device kept), rfl⟩
    d.autoEvents

theorem samplersOf_enroll (device : String) (numbers : List Nat) (s : Service σ)
    (free : s.samplersOf device = []) (n : String) :
    (enroll device numbers s).samplersOf n = if n = device then numbers else s.samplersOf n := by
  unfold enroll
  by_cases hn : n = device
  · subst hn
    rw [if_pos rfl]
    split
    · show ((s.controller.sampling.insert n numbers).find? n).getD [] = numbers
      rw [Dict.find?_insert, if_pos rfl]
      rfl
    · rename_i none
      rw [free, not_not.1 none]
  · rw [if_neg hn]
    split
    · show ((s.controller.sampling.insert device numbers).find? n).getD [] = _
      rw [Dict.find?_insert, if_neg (Ne.symm hn)]
      rfl
    · rfl

theorem samplersOf_startSamplers (d : Device) (previous : List Nat) (autoEvents : List AutoEvent)
    (s : Service σ) (n : String) :
    ((startSamplers driver d previous autoEvents).after s).samplersOf n = s.samplersOf n := by
  induction autoEvents generalizing s with
  | nil => rfl
  | cons a rest ih =>
    rw [after_startSamplers_cons, ih]
    have same : ((startSampler driver d previous a).after s).controller.sampling =
        s.controller.sampling := by
      rcases startSampler_cases driver d previous a s with
        ⟨-, -, aside⟩ | ⟨plan, k, u, -, found, launched⟩
      · exact congrArg Controller.sampling aside.controller
      · have found : u.controller.sampling = s.controller.sampling := by
          rcases found with ⟨-, aside⟩ | ⟨-, u', aside, new⟩
          · exact congrArg Controller.sampling aside.controller
          · exact new.sampling.trans (congrArg Controller.sampling aside.controller)
        rcases launched with ⟨-, x, on, -⟩ | ⟨-, aside⟩
        · exact on.sampling.trans found
        · exact (congrArg Controller.sampling aside.controller).trans found
    rw [samplersOf, same]
    rfl

/-- The samplers of a device that was started are those that it got. -/
theorem samplersOf_startAutoEvents {device : String} {d : Device} (s : Service σ)
    (registered : s.device? device = some d) (n : String) :
    let off := (Service.stopAutoEvents driver device).after s
    ((Service.startAutoEvents driver device).after s).samplersOf n =
      if n = device then (startSamplers driver d (s.samplersOf device) d.autoEvents).result off
      else s.samplersOf n := by
  intro off
  have others := samplersOf_stopAutoEvents driver device s
  rw [startAutoEvents_eq driver registered, samplersOf_enroll, samplersOf_startSamplers]
  · by_cases hn : n = device
    · rw [if_pos hn, if_pos hn]
    · rw [if_neg hn, if_neg hn, others, if_neg hn]
  · rw [samplersOf_startSamplers, others, if_pos rfl]

theorem enroll_memory? (device : String) (numbers : List Nat) (s : Service σ) (k : Nat) :
    (enroll device numbers s).memory? k = s.memory? k := by
  unfold enroll
  split <;> rfl

theorem enroll_scheduleOf (device : String) (numbers : List Nat) (s : Service σ) (k : Nat) :
    (enroll device numbers s).scheduleOf k = s.scheduleOf k := by
  unfold enroll
  split <;> rfl

theorem startAutoEvents (device : String) :
    Keeps (Restartable driver) (startAutoEvents driver device) := by
  intro s h
  cases registered : s.device? device with
  | none =>
    rw [startAutoEvents_of_none driver registered]
    exact h
  | some d =>
    obtain ⟨further, resumed, -⟩ := h.started driver registered
    have lists := samplersOf_startAutoEvents driver s registered
    have off := stopAutoEvents driver device s h
    have taken : Keeps (Driven driver) (onSite (Site.index driver d.registration)) :=
      fun u hu k handle hk => hu k handle
        (((index_aside driver d.registration u).scheduleOf k).symm.trans hk)
    have driven := (driven_launching driver).startSamplers taken (s.samplersOf device)
      d.autoEvents _ off.driven
    refine ⟨startAutoEvents_listed driver device s h.listed,
      h.named_of_devices (SameHealth.startAutoEvents driver device s).devices, fun n k hk => ?_,
      fun k handle hk => ?_⟩
    · rw [lists] at hk
      rw [startAutoEvents_eq driver registered, enroll_memory?]
      split at hk
      · rename_i hn
        obtain ⟨p, -, resumes⟩ := Index.exists_of_forall₂ resumed hk
        obtain ⟨m, hm, -, hd⟩ := resumes.follows
        exact ⟨m, hm, by rw [hd, h.named registered, hn]⟩
      · obtain ⟨m, hm, hd⟩ := h.ours n k hk
        rw [← SameMemory.stopAutoEvents driver device s k] at hm
        exact ⟨m, further.memory hm, hd⟩
    · rw [startAutoEvents_eq driver registered, enroll_scheduleOf] at hk
      exact driven k handle hk

theorem sampleRegistered (registered : Except DeviceError Device) :
    Keeps (Restartable driver) (sampleRegistered driver registered) :=
  sampleRegistered_within (startAutoEvents driver) registered

/-- What changes neither sampling nor devices nor the commands of profiles. -/
theorem keeps {α : Type} {a : Action σ α} (sampling : Within SameSampling a)
    (still : Within Still a) : Keeps (Restartable driver) a := fun s h =>
  h.same (sampling s) (listed_of_still still s h.listed)
    (h.named_of_devices (congrArg Registry.devices (still s).registry))

theorem start : Keeps (Restartable driver) (start driver) :=
  start_within
    (fun s h => h.same (SameSampling.prepare driver s) (h.listed.same rfl rfl)
      (h.named_of_devices rfl))
    (startAutoEvents driver) (keeps driver SameSampling.startCounters Still.startCounters)
    (keeps driver (SameSampling.setRunning true) (Still.besides fun _ => rfl))

theorem stop (force : Bool) : Keeps (Restartable driver) (stop driver force) :=
  stop_within force (keeps driver (SameSampling.setRunning false) (Still.besides fun _ => rfl))
    (stopAllAutoEvents_within (stopAutoEvents driver))
    (keeps driver SameSampling.cancelAllProbes
      (cancelAllProbes_within Still.retireTimer (Still.besides fun _ => rfl)))
    (keeps driver SameSampling.clearCounters (Still.besides fun _ => rfl))
    (fun number => keeps driver (SameSampling.retireTimer number) (Still.retireTimer number))
    fun s h => h.same (SameSampling.shutDown driver force s) (h.listed.same rfl rfl)
      (h.named_of_devices rfl)

/-- Every operation leaves a service in which the sampling of any device can be started over. -/
theorem perform {allowed : Nat} (h : Restartable driver s) (accounted : Accounted allowed s)
    (op : Operation σ) : Restartable driver (perform driver s op) := by
  have listed := perform_listed driver s op h.listed
  have named {name : String} {d : Device}
      (hd : (Service.perform driver s op).device? name = some d) : d.name = name :=
    (perform_accounted driver s op accounted).named hd
  cases op with
  | addProfile p => exact h.same (SameSampling.addProfile p s) listed named
  | removeProfile name => exact h.same (SameSampling.removeProfile name s) listed named
  | addDevice config =>
    have inserted : Restartable driver ((insertDevice driver config).after s) :=
      h.same (SameSampling.insertDevice driver config s)
        (h.listed.placedDevices (insertDevice_placed driver config s))
        (insertDevice_accounted driver config s accounted).named
    exact sampleRegistered driver _ _ inserted
  | updateDevice config =>
    have replaced : Restartable driver ((replaceDevice driver config).after s) :=
      h.same (SameSampling.replaceDevice driver config s)
        (h.listed.placedDevices (replaceDevice_placed driver config s))
        (replaceDevice_accounted driver config s accounted).named
    exact sampleRegistered driver _ _ replaced
  | removeDevice name =>
    have stopped := stopAutoEvents driver name s h
    exact stopped.same ((SameSampling.cancelProbe name _).trans
      (SameSampling.dropDevice driver name _)) listed named
  | setAdminState name state => exact h.same (SameSampling.setAdminState name state s) listed named
  | setServiceAdminState state =>
    exact h.same (SameSampling.setServiceAdminState state s) listed named
  | deviceCommand | execute | postReadings | noteSuccess | noteFailure =>
    exact h.same (SameSampling.workOn driver (perform_chores driver rfl s).workOn) listed named
  | startAutoEvents name => exact startAutoEvents driver name s h
  | stopAutoEvents name => exact stopAutoEvents driver name s h
  | start => exact start driver s h
  | stop force => exact stop driver force s h
  | fire timer => exact h.same (SameSampling.fireTimer driver timer s) listed named
  | pass millis timeOfDay => exact h.same (.ofAside ⟨rfl, .of_eq rfl⟩) listed named
  | change f => exact h.same (.ofAside ⟨rfl, .of_eq rfl⟩) listed named

theorem performAll (h : Fresh s) (ops : List (Operation σ)) :
    Restartable driver (performAll driver s ops) := by
  have both := performAll_keeps
    (P := fun s' => Restartable driver s' ∧ Accounted s.controller.config.allowedFails s')
    (fun s' op h => ⟨h.1.perform driver h.2 op, perform_accounted driver s' op h.2⟩) s ops
    ⟨.of_fresh h, .ofFresh h⟩
  exact both.1

end Restartable

/-! ## The restart -/

theorem further_enroll (device : String) (numbers : List Nat) (s : Service σ) :
    Further s (enroll device numbers s) := by
  unfold enroll
  split
  · exact ⟨id, id, fun h => ⟨h, rfl⟩, .of_eq rfl⟩
  · exact .refl s

/-- What was there before the schedules ended is what was there when the first one was launched. -/
theorem Resumes.of_sameMemory {d : Device} {previous : List Nat} {p : Command × Plan} {k : Nat}
    (h : Resumes d previous t u p k) (memory : SameMemory s t)
    (trace : ∃ new, t.site.trace = new ++ s.site.trace) : Resumes d previous s u p k := by
  have same : t.following? previous p.2 = s.following? previous p.2 :=
    following?_congr (fun k _ => by rw [map_plan_sampler?, map_plan_sampler?, memory k]) p.2
  refine ⟨h.follows, fun hj => ?_, fun hf => ?_, h.runs.imp_right fun refused =>
    refused.since trace⟩
  · rw [← memory k]
    exact h.kept (same.trans hj)
  · rw [← memory k]
    exact h.new (same.trans hf)

variable (driver) in
/-- The sampling of a registered device is started over. Its samplers are then, in the order of its
auto-events, one for each of them that is of use and none for the others. Each is the first of the
samplers that were on the list of the device and follow the same plan, with what it remembered, or a
new one that remembers nothing and is no other's; and each runs unless the driver refused it. The
schedules of the samplers from before had all ended when the first one was launched: until then
nothing was launched, and from then on nothing is stopped. -/
theorem restart_resumes (h : Restartable driver s) {device : String} {d : Device}
    (registered : s.device? device = some d) :
    let previous := s.samplersOf device
    let off := (stopAutoEvents driver device).after s
    let t := (startAutoEvents driver device).after s
    List.Forall₂ (Resumes d previous s t) (d.autoEvents.filterMap (usable? driver off d))
        (t.samplersOf device) ∧
      (t.samplersOf device).Pairwise (fun j k => s.memory? k = none → j ≠ k) ∧
      (∀ k ∈ previous, ∀ x, s.scheduleOf k = some x → HasEnded x s off) ∧
      Noting (·.isLaunch = false) s off ∧ (∀ i, off.taskOf i = s.taskOf i) ∧
      Noting (·.isHalt = false) off t ∧
      ∀ i task, off.taskOf i = some task → t.isLive i = off.isLive i := by
  intro previous off t
  obtain ⟨launched, resumed, distinct⟩ := h.started driver registered
  have lists : t.samplersOf device =
      (startSamplers driver d (s.samplersOf device) d.autoEvents).result off :=
    (Restartable.samplersOf_startAutoEvents driver s registered device).trans (if_pos rfl)
  have winding := Winding.stopAutoEvents driver device s
  have memory := SameMemory.stopAutoEvents driver device s
  have whole : Further off t := by
    rw [show t = _ from startAutoEvents_eq driver registered]
    exact launched.trans (further_enroll device _ _)
  have trace : ∃ new, off.site.trace = new ++ s.site.trace :=
    let ⟨new, ht, _⟩ := winding.noting
    ⟨new, ht⟩
  refine ⟨?_, ?_, fun k hk x hx => ?_, winding.noting, winding.task, whole.noting,
    fun i task hi => (whole.timers hi).2⟩
  · rw [lists]
    refine resumed.imp fun p k resumes => ?_
    have enrolled := resumes.onward (further_enroll device
      ((startSamplers driver d previous d.autoEvents).result off) _)
    rw [← startAutoEvents_eq driver registered] at enrolled
    exact enrolled.of_sameMemory memory trace
  · rw [lists]
    exact distinct.imp fun apart new => apart ((memory _).trans new)
  · exact stopSamplers_ended driver (s := (takeSamplers device).after s) h.driven hk hx

/-- An auto-event whose interval is now written in another way goes on with what its sampler
remembered, behind one that now publishes all it reads; an interval of no length and a resource that
cannot be read get no sampler. -/
theorem restart_resumes_pump :
    let driver := Simulation.driver false
    let resource (name : String) (access : Access) : Resource :=
      { name, properties := { type := .scalar .bool, access } }
    let s := performAll driver (ofConfig {} 0 {})
      [.addProfile { name := "pump",
                     resources := [resource "on" .readWrite, resource "reset" .write] },
        .addDevice { name := "p1", profileName := "pump",
                     autoEvents := [⟨"on", "10s", true⟩] },
        .startAutoEvents "p1", .fire 0,
        .updateDevice { name := "p1", profileName := "pump",
                        autoEvents := [⟨"on", "0s", true⟩, ⟨"reset", "10s", false⟩,
                          ⟨"on", "10s", false⟩, ⟨"on", "10000ms", true⟩] }]
    let off := (stopAutoEvents driver "p1").after s
    let t := (startAutoEvents driver "p1").after s
    (s.memory? 0).any (·.snapshot.isSome) = true ∧
      ∃ d, s.device? "p1" = some d ∧
        List.Forall₂ (Resumes d [0] s t) (d.autoEvents.filterMap (usable? driver off d))
          [1, 0] := by
  intro driver resource s off t
  have restartable : Restartable driver s := .performAll driver (ofConfig_fresh _ _ _) _
  obtain ⟨d, registered⟩ :=
    Option.isSome_iff_exists.1 (by decide : (s.device? "p1").isSome = true)
  have resumed := (restart_resumes driver restartable registered).1
  have before : s.samplersOf "p1" = [0] := by decide
  have after : t.samplersOf "p1" = [1, 0] := by decide
  rw [before, show ((startAutoEvents driver "p1").after s).samplersOf "p1" = [1, 0] from after]
    at resumed
  exact ⟨by decide, d, registered, resumed⟩

end FieldGateway.Service
