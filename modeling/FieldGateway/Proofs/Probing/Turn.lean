import FieldGateway.Proofs.Probing.Calm

/-
  What happens to devices and to their probes. A `Turn` is calm, or a report on a device that is
  registered, or a device is added or removed, or a probe ends that has nothing left to find out.
  Every operation is a chain of turns (`perform_turns`), but for an update of a device and the
  stop of the service.
-/

namespace FieldGateway.Service

open FieldGateway.Action

variable {σ : Type} (driver : Driver σ) {s t : Service σ} {allowed : Nat}

/-- The commands of a device are known, and none of them can probe it. -/
def Barren (s : Service σ) (d : Device) : Prop :=
  ∃ i, s.made? d.registration = some i ∧ i.probe? = none

inductive Turn : Service σ → Service σ → Prop
  | calm {s t : Service σ} (h : Calm s t) : Turn s t
  | report {d : Device} (r : Report) (reason : String) {s : Service σ}
      (hd : s.device? d.name = some d) :
      Turn s ((conclude d r reason).after s)
  | insert (config : DeviceConfig) (s : Service σ) : Turn s ((insertDevice driver config).after s)
  | remove (name : String) (s : Service σ) :
      Turn s ((dropDevice driver name).after ((cancelProbe name).after s))
  /-- The device of a probe is gone. -/
  | forget {name : String} {s : Service σ} (hd : s.device? name = none) :
      Turn s ((forgetProbe name).after s)
  /-- The timer of a probe ends, with its device gone, or up, or without a command to probe it. -/
  | giveUp {name : String} {i : Nat} {s t : Service σ} (h : Calm.Retires i s t)
      (hi : s.taskOf i = some (.probe name))
      (hd : ∀ d, s.device? name = some d → s.site.isDown d = true → Barren s d) : Turn s t

def Turns : Service σ → Service σ → Prop := Relation.ReflTransGen (Turn driver)

/-- What turns go by: devices are on record under their names, with conditions of their own,
timers run what they are held for, and the commands of profiles have their places. -/
structure Tidy (allowed : Nat) (s : Service σ) : Prop where
  accounted : Accounted allowed s
  assigned : Assigned s
  catalogued : Catalogued s

theorem Tidy.calm (h : Tidy allowed s) (calm : Calm s t) : Tidy allowed t :=
  ⟨h.accounted.sameHealth calm.health, (calm.probing h.assigned).1,
    (calm.learning h.catalogued).1⟩

/-! ## Probes -/

theorem forgetProbe_assigned (h : Assigned s) (name : String) :
    Assigned ((forgetProbe name).after s) := by
  refine ⟨h.samplers, h.counters, fun {n i} hi => ?_⟩
  change (s.controller.probes.erase name).find? n = some i at hi
  rw [Dict.find?_erase] at hi
  split at hi
  · cases hi
  · exact h.probes hi

theorem hasProbe_forgetProbe (name n : String) (s : Service σ) :
    ((forgetProbe name).after s).hasProbe n = (s.hasProbe n && decide (name ≠ n)) := by
  show ((s.controller.probes.erase name).find? n).any s.isLive = _
  rw [Dict.find?_erase]
  split <;> rename_i h <;> simp [h, hasProbe]

theorem cancelProbe_assigned (h : Assigned s) (name : String) :
    Assigned ((cancelProbe name).after s) ∧
      ∀ n, ((cancelProbe name).after s).hasProbe n = (s.hasProbe n && decide (name ≠ n)) := by
  unfold cancelProbe
  rw [after_get_bind]
  cases hf : s.controller.probes.find? name with
  | none =>
    refine ⟨h, fun n => ?_⟩
    by_cases hn : name = n
    · subst hn
      show s.hasProbe name = _
      simp [hasProbe, hf]
    · show s.hasProbe n = _
      simp [hn]
  | some i =>
    have off := Calm.retireTimer_retires i ((forgetProbe name).after s)
    refine ⟨off.assigned (forgetProbe_assigned h name), fun n => ?_⟩
    rw [← hasProbe_forgetProbe]
    refine hasProbe_congr rfl fun j hj => ?_
    show ((retireTimer i).after ((forgetProbe name).after s)).isLive j = _
    rw [off.live, decide_eq_true, Bool.and_true]
    rintro rfl
    change (s.controller.probes.erase name).find? n = some i at hj
    rw [Dict.find?_erase] at hj
    split at hj
    · cases hj
    · rename_i hn
      have := (h.probes hf).symm.trans (h.probes hj)
      exact hn (by simpa using this)

/-- A probe is set, and put down for the device of a name. -/
def setProbe (delay : Duration) (name : String) : Action σ Unit := do
  let number ← setTimer (.retrying delay) (.probe name)
  changeController fun c => { c with probes := c.probes.insert name number }

theorem setProbe_assigned (h : Assigned s) (delay : Duration) (name : String) :
    Assigned ((setProbe delay name).after s) ∧
      ∀ n, ((setProbe delay name).after s).hasProbe n = (s.hasProbe n || decide (name = n)) := by
  let i := s.controller.timers.next
  let u := (setTimer (.retrying delay) (.probe name)).after s
  have set := Calm.setTimer (.retrying delay) (.probe name) s
  obtain ⟨hu, same⟩ := set.probing h
  have task : u.taskOf i = some (.probe name) := SameSampling.taskOf_setTimer _ _ s
  have live : u.isLive i = true := by
    show ((s.controller.timers.add _).get? _).any _ = true
    rw [Numbered.get?_add, if_pos rfl]
    rfl
  refine ⟨⟨hu.samplers, hu.counters, fun {n j} hj => ?_⟩, fun n => ?_⟩
  · change (s.controller.probes.insert name i).find? n = some j at hj
    rw [Dict.find?_insert] at hj
    split at hj
    · rename_i hn
      cases hj
      exact hn ▸ task
    · exact hu.probes hj
  · show ((s.controller.probes.insert name i).find? n).any u.isLive = _
    rw [Dict.find?_insert]
    split
    · rename_i hn
      simp [hn, live]
    · rename_i hn
      exact (same n).trans (by simp [hn])

theorem armProbe_assigned (h : Assigned s) (name : String) :
    Assigned ((armProbe name).after s) ∧
      ∀ n, ((armProbe name).after s).hasProbe n = (s.hasProbe n ||
        (decide (name = n) && s.controller.config.downTimeout?.isSome)) := by
  unfold armProbe
  rw [after_get_bind]
  cases s.controller.config.downTimeout? with
  | none => exact ⟨h, fun n => by simp⟩
  | some delay =>
    dsimp only
    rw [after_ite]
    split
    · rename_i hp
      refine ⟨h, fun n => ?_⟩
      rw [after_pure]
      by_cases hn : name = n
      · simp [← hn, hp]
      · simp [hn]
    · obtain ⟨assigned, probes⟩ := setProbe_assigned h delay name
      refine ⟨assigned, fun n => (probes n).trans ?_⟩
      rw [Option.isSome_some, Bool.and_true]

/-- Every probe is gone. -/
theorem hasProbe_cancelAllProbes (name : String) (s : Service σ) :
    ((cancelAllProbes (σ := σ)).after s).hasProbe name = false :=
  rfl

/-! ## Reports -/

theorem hasProbe_of_controller (controller : t.controller = s.controller) (name : String) :
    t.hasProbe name = s.hasProbe name :=
  hasProbe_congr (by rw [controller]) fun i _ => by rw [isLive, controller]; rfl

theorem cameUp_assigned (h : Assigned s) (d : Device) :
    Assigned ((cameUp d).after s) ∧
      ∀ n, ((cameUp d).after s).hasProbe n = (s.hasProbe n && decide (d.name ≠ n)) := by
  obtain ⟨off, probes⟩ := cancelProbe_assigned h d.name
  have said : ((cameUp d).after s).controller = ((cancelProbe d.name).after s).controller := by
    unfold cameUp
    rw [after_bind, after_bind, controller_report]
    rfl
  exact ⟨off.of_controller said, fun n => (hasProbe_of_controller said n).trans (probes n)⟩

theorem wentDown_assigned (h : Assigned s) (d : Device) (reason : String) :
    Assigned ((wentDown d reason).after s) ∧
      ∀ n, ((wentDown d reason).after s).hasProbe n = (s.hasProbe n ||
        (decide (d.name = n) && s.controller.config.downTimeout?.isSome)) := by
  let u := (report (.stateReported d.name .down)).after
    ((announce healthSource (.deviceDown d.name (some reason))).after s)
  have said : u.controller = s.controller := controller_report _ _
  obtain ⟨on, probes⟩ := armProbe_assigned (h.of_controller said) d.name
  refine ⟨on, fun n => (probes n).trans ?_⟩
  rw [hasProbe_of_controller said, said]

theorem conclude_assigned (h : Assigned s) (d : Device) (r : Report) (reason : String) :
    Assigned ((conclude d r reason).after s) := by
  have entered : Assigned ((enter d r).after s) := h.of_controller rfl
  rcases conclude_cases d r reason s with ⟨_, ht⟩ | ⟨_, ht⟩ | ⟨_, ht⟩
  · exact ht ▸ entered
  · exact ht ▸ (cameUp_assigned entered d).1
  · exact ht ▸ (wentDown_assigned entered d reason).1

/-- Nothing is registered or made. -/
theorem conclude_catalogue (d : Device) (r : Report) (reason : String) (s : Service σ) :
    let t := (conclude d r reason).after s
    t.site.registry = s.site.registry ∧ t.site.indexes = s.site.indexes := by
  intro t
  have told (e : Effect) (u : Service σ) :
      ((report e).after u).site.registry = u.site.registry ∧
        ((report e).after u).site.indexes = u.site.indexes := by
    rw [after_report]
    split <;> exact ⟨rfl, rfl⟩
  rcases conclude_cases d r reason s with ⟨_, ht⟩ | ⟨_, ht⟩ | ⟨_, ht⟩
  · rw [show t = _ from ht]
    exact ⟨rfl, rfl⟩
  · let u := (announce healthSource (.deviceUp d.name)).after
      ((cancelProbe d.name).after ((enter d r).after s))
    have hu : u.site.registry = s.site.registry ∧ u.site.indexes = s.site.indexes := by
      simp only [u, announce, after_changeSite, site_cancelProbe]
      exact ⟨rfl, rfl⟩
    rw [show t = (report (.stateReported d.name .up)).after u from ht, (told _ u).1, (told _ u).2]
    exact hu
  · let u := (announce healthSource (.deviceDown d.name (some reason))).after ((enter d r).after s)
    obtain ⟨waits, hw⟩ := site_armProbe d.name ((report (.stateReported d.name .down)).after u)
    have hs : t.site = _ := (congrArg Service.site ht).trans hw
    rw [hs]
    exact told _ u

theorem Catalogued.of_site (h : Catalogued s) (registry : t.site.registry = s.site.registry)
    (indexes : t.site.indexes = s.site.indexes) : Catalogued t := by
  refine ⟨fun hr => ?_, fun hd => ?_⟩
  · rw [indexes]
    exact h.profiles (registry ▸ hr)
  · rw [indexes]
    rw [device?, registry] at hd
    exact h.devices hd

theorem conclude_tidy (h : Tidy allowed s) {d : Device} (hd : s.device? d.name = some d)
    (r : Report) (reason : String) : Tidy allowed ((conclude d r reason).after s) := by
  refine ⟨?_, conclude_assigned h.assigned d r reason, h.catalogued.of_site
    (conclude_catalogue d r reason s).1 (conclude_catalogue d r reason s).2⟩
  exact (h.accounted.enter hd r).sameHealth (conclude_sameHealth d r reason s)

/-! ## Devices that come and go -/

theorem incarnation_profile {config : DeviceConfig} {d : Device}
    (h : incarnation driver s config = .ok d) :
    s.site.registry.profile? config.profileName = some d.registration := by
  unfold incarnation at h
  cases hp : s.site.registry.profile? config.profileName with
  | none =>
    rw [hp] at h
    cases h
  | some r =>
    rw [hp] at h
    dsimp only at h
    split at h
    · cases h
    · cases h
      rfl

/-- No more changed in the registry than devices, and each that is new follows a profile that is
on record. -/
structure Placed (s t : Service σ) : Prop where
  controller : t.controller = s.controller
  indexes : t.site.indexes = s.site.indexes
  profiles : t.site.registry.profiles = s.site.registry.profiles
  devices {name : String} {d : Device} : t.device? name = some d →
    s.device? name = some d ∨ ∃ p, s.site.registry.profile? p = some d.registration

theorem Placed.refl (s : Service σ) : Placed s s := ⟨rfl, rfl, rfl, .inl⟩

theorem Placed.catalogued (h : Placed s t) (hs : Catalogued s) : Catalogued t := by
  refine ⟨fun {name r} hr => ?_, fun {name d} hd => ?_⟩
  · rw [h.indexes]
    rw [Registry.profile?, h.profiles] at hr
    exact hs.profiles hr
  · rw [h.indexes]
    rcases h.devices hd with hd | ⟨p, hp⟩
    · exact hs.devices hd
    · exact hs.profiles hp

theorem Placed.of_insert {d : Device} {r : Registry} {p : String}
    (profiles : r.profiles = s.site.registry.profiles)
    (devices : r.devices = s.site.registry.devices.insert d.name d)
    (hp : s.site.registry.profile? p = some d.registration) {site : Site σ}
    (registry : site.registry = r) (indexes : site.indexes = s.site.indexes) :
    Placed s ⟨site, s.controller⟩ := by
  refine ⟨rfl, indexes, registry ▸ profiles, fun {name e} he => ?_⟩
  rw [device?, registry, Registry.device?, devices, Dict.find?_insert] at he
  split at he
  · cases he
    exact .inr ⟨p, hp⟩
  · exact .inl he

theorem insertDevice_placed (config : DeviceConfig) (s : Service σ) :
    Placed s ((insertDevice driver config).after s) := by
  unfold insertDevice
  rw [after_get_bind, after_ite]
  split
  · exact .refl s
  · cases hi : incarnation driver s config with
    | error e => exact .refl s
    | ok d =>
      dsimp only
      cases hr : s.site.registry.insertDevice d with
      | error e => exact .refl s
      | ok registry =>
        exact .of_insert (Registry.insertDevice_profiles hr) (Registry.insertDevice_ok hr).2
          (incarnation_profile driver hi) rfl rfl

theorem replaceDevice_placed (config : DeviceConfig) (s : Service σ) :
    Placed s ((replaceDevice driver config).after s) := by
  unfold replaceDevice
  rw [after_get_bind]
  cases s.device? config.name with
  | none => exact .refl s
  | some old =>
    dsimp only
    cases hi : incarnation driver s config with
    | error e => exact .refl s
    | ok d =>
      dsimp only
      cases hr : s.site.registry.replaceDevice d with
      | error e => exact .refl s
      | ok registry =>
        exact .of_insert (Registry.replaceDevice_profiles hr) (Registry.replaceDevice_ok hr)
          (incarnation_profile driver hi) rfl rfl

theorem dropDevice_placed (name : String) (s : Service σ) :
    Placed s ((dropDevice driver name).after s) := by
  unfold dropDevice
  rw [after_get_bind]
  cases hr : s.site.registry.removeDevice name with
  | error e => exact .refl s
  | ok registry =>
    refine ⟨rfl, rfl, Registry.removeDevice_profiles hr, fun {n d} hd => .inl ?_⟩
    change registry.devices.find? n = some d at hd
    rw [Registry.removeDevice_ok hr, Dict.find?_erase] at hd
    split at hd
    · cases hd
    · exact hd

theorem device?_dropDevice (name : String) (s : Service σ) :
    ((dropDevice driver name).after s).device? name = none := by
  unfold dropDevice
  rw [after_get_bind]
  cases hr : s.site.registry.removeDevice name with
  | error e =>
    unfold Registry.removeDevice at hr
    split at hr
    · cases hr
    · rename_i hc
      exact (Dict.contains_eq_false_iff _ _).1 (by simpa using hc)
  | ok registry =>
    show registry.devices.find? name = none
    rw [Registry.removeDevice_ok hr, Dict.find?_erase, if_pos rfl]

theorem Placed.tidy (h : Placed s t) (hs : Tidy allowed s) (accounted : Accounted allowed t) :
    Tidy allowed t :=
  ⟨accounted, hs.assigned.of_controller h.controller, h.catalogued hs.catalogued⟩

theorem removed_tidy (h : Tidy allowed s) (name : String) :
    Tidy allowed ((dropDevice driver name).after ((cancelProbe name).after s)) := by
  have cancelled : Tidy allowed ((cancelProbe name).after s) :=
    ⟨h.accounted.sameHealth (SameHealth.cancelProbe name s),
      (cancelProbe_assigned h.assigned name).1,
      h.catalogued.of_site (by rw [site_cancelProbe]) (by rw [site_cancelProbe])⟩
  exact (dropDevice_placed driver name _).tidy cancelled
    (dropDevice_accounted driver name _ cancelled.accounted)

/-- Every turn leaves things tidy. -/
theorem Turn.tidy (turn : Turn driver s t) (h : Tidy allowed s) : Tidy allowed t := by
  cases turn with
  | calm calm => exact h.calm calm
  | report r reason hd => exact conclude_tidy h hd r reason
  | insert config =>
    exact (insertDevice_placed driver config s).tidy h
      (insertDevice_accounted driver config s h.accounted)
  | remove name => exact removed_tidy driver h name
  | @forget name _ hd =>
    exact ⟨h.accounted.sameHealth (SameHealth.forgetProbe name s),
      forgetProbe_assigned h.assigned name, h.catalogued.of_site rfl rfl⟩
  | giveUp off hi hd =>
    exact ⟨h.accounted.sameHealth off.health, off.assigned h.assigned,
      (off.plain.learning off.health h.catalogued).1⟩

theorem Turns.tidy (turns : Turns driver s t) (h : Tidy allowed s) : Tidy allowed t := by
  induction turns with
  | refl => exact h
  | tail _ turn ih => exact turn.tidy driver ih

end FieldGateway.Service
